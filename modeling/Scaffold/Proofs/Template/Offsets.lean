import Mathlib.Data.List.Chain
import Scaffold.Proofs.Template.Rewriting
import Scaffold.Template.TokenNames

/-! The byte offsets of a scan.

A scan of a template goes by byte offsets, and a cut at an offset inside a character would be moved
silently. Here it is said that no cut of a scan is: whatever the text holds next to its braces, each
cut goes between two offsets that lie in the text, in order and at the bounds of characters, and each
iteration takes the scan further. Main statement: `expansion_and_listing_in_bounds`. -/

set_option autoImplicit false

namespace Scaffold.Text

open Scaffold.Template

/-! ### Parts of a text -/

/-- The bytes of a text from one offset up to another are those of a part, and neither offset lies
outside the text or inside a character. -/
structure IsPart (text : String) (first last : Nat) (part : List Char) : Prop where
  ordered : first ≤ last
  first_valid : String.Pos.Raw.IsValid text ⟨first⟩
  last_valid : String.Pos.Raw.IsValid text ⟨last⟩
  bytes_eq : text.toByteArray.extract first last = (String.ofList part).toByteArray

variable {text : String} {front part back : List Char}

theorem isValid_of_append (divided : text.toList = front ++ back) :
    String.Pos.Raw.IsValid text ⟨byteLength front⟩ := by
  refine String.Pos.Raw.isValid_iff_exists_append.mpr
    ⟨String.ofList front, String.ofList back, ?_, ?_⟩
  · apply String.toList_injective
    rw [divided, String.toList_append, String.toList_ofList, String.toList_ofList]
  · rw [← utf8ByteSize_ofList]
    rfl

theorem isPart_of_append (divided : text.toList = front ++ (part ++ back)) :
    IsPart text (byteLength front) (byteLength front + byteLength part) part where
  ordered := Nat.le_add_right _ _
  first_valid := isValid_of_append divided
  last_valid := by
    rw [← List.append_assoc] at divided
    rw [← byteLength_append]
    exact isValid_of_append divided
  bytes_eq := by
    have whole : text.toByteArray = (String.ofList front).toByteArray ++
        ((String.ofList part).toByteArray ++ (String.ofList back).toByteArray) := by
      rw [← String.toByteArray_append, ← String.toByteArray_append, ← String.ofList_append,
        ← String.ofList_append, ← divided, String.ofList_toList]
    have size (piece : List Char) :
        (String.ofList piece).toByteArray.size = byteLength piece := by
      rw [String.size_toByteArray, utf8ByteSize_ofList]
    rw [whole, ← size front, ← size part]
    exact (@ByteArray.extract_append_size_add _ _ 0 _).trans (ByteArray.extract_append_eq_left rfl)

theorem byteLength_toList (text : String) : byteLength text.toList = text.utf8ByteSize := by
  rw [← utf8ByteSize_ofList, String.ofList_toList]

theorem isPart_rest (divided : text.toList = front ++ back) :
    IsPart text (byteLength front) text.utf8ByteSize back := by
  have part := @isPart_of_append text front back [] (by rw [List.append_nil, divided])
  rwa [← byteLength_append, ← divided, byteLength_toList] at part

end Scaffold.Text

namespace Scaffold.Template

open Scaffold.Text

variable {text : List Char} {scanner : Scanner} {opening : Opening}
  {choose : Opening → Option Nat} {stop : Nat}

/-! ### The iterations of a scan -/

/-- The scan after one iteration; absent after the last one. -/
def Scanner.next? (choose : Opening → Option Nat) (scanner : Scanner) : Option Scanner :=
  scanner.opening?.map fun opening =>
    match choose opening with
    | some stop => opening.resumeAfter stop
    | none => opening.resumeInside

def Scanner.emitted (choose : Opening → Option Nat) (scanner : Scanner) : List Piece :=
  match scanner.opening? with
  | none => [.literal scanner.rest]
  | some opening =>
      match choose opening with
      | some stop => [.literal opening.skipped, .token (opening.cut stop).1]
      | none => [.literal opening.skipped, .literal (opening.found.take 1)]

theorem Scanner.length_next?_lt {next : Scanner} (stepped : scanner.next? choose = some next) :
    next.rest.length < scanner.rest.length := by
  obtain ⟨opening, located, rfl⟩ := Option.map_eq_some_iff.mp stepped
  split
  · exact length_resumeAfter_lt _ located
  · exact length_resumeInside_lt located

def Scanner.visited (choose : Opening → Option Nat) (scanner : Scanner) : List Scanner :=
  match _stepped : scanner.next? choose with
  | none => [scanner]
  | some next => scanner :: next.visited choose
termination_by scanner.rest.length
decreasing_by exact length_next?_lt _stepped

theorem Scanner.head?_visited (choose : Opening → Option Nat) (scanner : Scanner) :
    (scanner.visited choose).head? = some scanner := by
  rw [visited]
  split
  · rfl
  · rfl

theorem Scanner.pieces_eq_flatMap_visited (choose : Opening → Option Nat) (scanner : Scanner) :
    scanner.pieces choose = (scanner.visited choose).flatMap (emitted choose) := by
  fun_induction Scanner.visited choose scanner with
  | case1 scanner last =>
      have located := Option.map_eq_none_iff.mp last
      rw [pieces, List.flatMap_singleton, emitted.eq_def]
      split
      next => rw [located]
      next found => rw [located] at found; cases found
  | case2 scanner next stepped ih =>
      obtain ⟨opening, located, rfl⟩ := Option.map_eq_some_iff.mp stepped
      rw [pieces, List.flatMap_cons, ← ih, emitted.eq_def]
      split
      next missing => rw [located] at missing; cases missing
      next found =>
          rw [located] at found
          cases found
          simp only [located]
          cases choose opening with
          | some stop => rfl
          | none => rfl

/-! ### What one iteration keeps -/

/-- A scan of a text stands where its offset says, and holds the right closing. -/
structure Scanner.Aligned (text : List Char) (scanner : Scanner) : Prop where
  current : scanner.Current
  passed : ∃ front, text = front ++ scanner.rest ∧ byteLength front = scanner.offset

theorem Scanner.aligned_start (text : List Char) : (start text).Aligned text :=
  ⟨current_start text, [], rfl, rfl⟩

/-- A rule closes spans at no other places than where some `}}` begins. -/
def ClosesAtStops (choose : Opening → Option Nat) : Prop :=
  ∀ opening stop, choose opening = some stop → stop ∈ opening.stops

theorem closesAtStops_closeAtBound (longest : Nat) (isBound : String → Bool) :
    ClosesAtStops (closeAtBound longest isBound) := by
  intro opening stop chosen
  exact List.mem_of_find?_eq_some chosen

theorem closesAtStops_closeAtFirst : ClosesAtStops closeAtFirst := by
  intro opening stop chosen
  unfold closeAtFirst at chosen
  split at chosen
  · cases chosen
  · cases chosen
    unfold Opening.stops
    split
    · exact List.mem_cons_self
    · exact List.mem_cons_self

theorem Opening.Parts.exists_token {inside name after : List Char}
    (parts : opening.Parts scanner inside name after) (member : stop ∈ opening.stops) :
    ∃ token rest, inside = token ++ '}' :: '}' :: rest ∧
      stop = opening.nameOffset + byteLength token := by
  have divided := splitPair_eq_some parts.closes
  unfold Opening.stops at member
  rw [parts.closing_eq] at member
  simp only [decide_eq_true_eq] at member
  split at member
  next third =>
      rcases List.mem_cons.mp member with here | later
      · exact ⟨name, after, divided, here⟩
      · obtain ⟨behind, rfl⟩ : ∃ behind, after = '}' :: behind := by
          cases after with
          | nil => cases third
          | cons c behind =>
              cases Option.some.inj third
              exact ⟨behind, rfl⟩
        refine ⟨name ++ ['}'], behind, ?_, ?_⟩
        · rw [divided, List.append_assoc]
          rfl
        · rw [byteLength_append_ascii name (by decide), ← Nat.add_assoc]
          exact List.mem_singleton.mp later
  next => exact ⟨name, after, divided, List.mem_singleton.mp member⟩

theorem Scanner.offset_of_opening? (current : scanner.Current)
    (located : scanner.opening? = some opening) :
    opening.offset = scanner.offset + byteLength opening.skipped := by
  rw [opening?_eq current] at located
  obtain ⟨pair, -, closed⟩ := Option.bind_eq_some_iff.mp located
  obtain ⟨ends, -, same⟩ := Option.map_eq_some_iff.mp closed
  cases same
  rfl

namespace Scanner.Aligned

/-- What an opening of an aligned scan is made of, seen from the whole text. -/
theorem exists_parts (aligned : scanner.Aligned text)
    (located : scanner.opening? = some opening) :
    ∃ front inside name after, opening.Parts scanner inside name after ∧
      text = front ++ '{' :: '{' :: inside ∧ byteLength front = opening.offset := by
  obtain ⟨inside, name, after, parts⟩ := Scanner.exists_parts aligned.current located
  obtain ⟨front, whole, begins⟩ := aligned.passed
  refine ⟨front ++ opening.skipped, inside, name, after, parts, ?_, ?_⟩
  · rw [whole, splitPair_eq_some parts.opens, List.append_assoc]
  · rw [byteLength_append, begins, offset_of_opening? aligned.current located]

theorem exists_span (aligned : scanner.Aligned text)
    (located : scanner.opening? = some opening) (member : stop ∈ opening.stops) :
    ∃ front token rest, text = front ++ (token ++ '}' :: '}' :: rest) ∧
      byteLength front = opening.nameOffset ∧ stop = opening.nameOffset + byteLength token ∧
      opening.cut stop = (token, '}' :: '}' :: rest) ∧ (opening.resumeAfter stop).Current := by
  obtain ⟨front, inside, name, after, parts, whole, begins⟩ := aligned.exists_parts located
  obtain ⟨token, rest, divided, rfl⟩ := parts.exists_token member
  refine ⟨front ++ ['{', '{'], token, rest, ?_, ?_, rfl,
    Opening.cut_eq (parts.inside_eq.trans divided), parts.current_resumeAfter divided⟩
  · rw [whole, divided, List.append_assoc]
    rfl
  · rw [byteLength_append_pair front (by decide), begins]
    rfl

theorem resumeInside (aligned : scanner.Aligned text)
    (located : scanner.opening? = some opening) : opening.resumeInside.Aligned text := by
  obtain ⟨front, inside, name, after, parts, whole, begins⟩ := aligned.exists_parts located
  refine ⟨parts.current_resumeInside, front ++ ['{'], ?_, ?_⟩
  · rw [whole, Opening.resumeInside, parts.found_eq, List.append_assoc]
    rfl
  · rw [byteLength_append_ascii front (by decide), begins]
    rfl

theorem resumeAfter (aligned : scanner.Aligned text)
    (located : scanner.opening? = some opening) (member : stop ∈ opening.stops) :
    (opening.resumeAfter stop).Aligned text := by
  obtain ⟨front, token, rest, whole, begins, ends, cut, current⟩ :=
    aligned.exists_span located member
  refine ⟨current, front ++ token ++ ['}', '}'], ?_, ?_⟩
  · rw [whole, Opening.resumeAfter, cut, List.append_assoc, List.append_assoc]
    rfl
  · rw [byteLength_append_pair _ (by decide), byteLength_append, begins, ← ends]
    rfl

/-- One iteration keeps a scan aligned and takes it further. -/
theorem next (closes : ClosesAtStops choose) (aligned : scanner.Aligned text) {next : Scanner}
    (stepped : scanner.next? choose = some next) :
    next.Aligned text ∧ scanner.offset < next.offset := by
  obtain ⟨opening, located, rfl⟩ := Option.map_eq_some_iff.mp stepped
  have begins := offset_of_opening? aligned.current located
  cases chosen : choose opening with
  | none =>
      refine ⟨aligned.resumeInside located, ?_⟩
      simp only [Opening.resumeInside]
      omega
  | some stop =>
      have member := closes opening stop chosen
      obtain ⟨-, token, -, -, -, ends, -, -⟩ := aligned.exists_span located member
      refine ⟨aligned.resumeAfter located member, ?_⟩
      simp only [Opening.resumeAfter]
      rw [Opening.nameOffset] at ends
      omega

/-! ### What all iterations keep -/

theorem of_mem_visited (closes : ClosesAtStops choose) (aligned : scanner.Aligned text)
    {later : Scanner} (member : later ∈ scanner.visited choose) : later.Aligned text := by
  fun_induction Scanner.visited choose scanner with
  | case1 scanner last =>
      cases List.mem_singleton.mp member
      exact aligned
  | case2 scanner next stepped ih =>
      rcases List.mem_cons.mp member with rfl | further
      · exact aligned
      · exact ih (aligned.next closes stepped).1 further

theorem isChain_visited (closes : ClosesAtStops choose) (aligned : scanner.Aligned text) :
    (scanner.visited choose).IsChain fun earlier later => earlier.offset < later.offset := by
  fun_induction Scanner.visited choose scanner with
  | case1 scanner last => exact .singleton scanner
  | case2 scanner next stepped ih =>
      obtain ⟨still, further⟩ := aligned.next closes stepped
      refine (ih still).cons ?_
      intro first begins
      rw [head?_visited] at begins
      cases begins
      exact further

/-- There are no more iterations than bytes, and one. -/
theorem offset_add_length_visited_le (closes : ClosesAtStops choose)
    (aligned : scanner.Aligned text) :
    scanner.offset + (scanner.visited choose).length ≤ byteLength text + 1 := by
  fun_induction Scanner.visited choose scanner with
  | case1 scanner last =>
      obtain ⟨front, whole, begins⟩ := aligned.passed
      rw [whole, byteLength_append, begins, List.length_singleton]
      omega
  | case2 scanner next stepped ih =>
      obtain ⟨still, further⟩ := aligned.next closes stepped
      have left := ih still
      rw [List.length_cons]
      omega

end Scanner.Aligned

/-! ### Cuts in bounds -/

/-- The cuts of one iteration: what is left of the text, its parts before and after an opener, and
the name of a span with what is left after it, wherever the span may close. -/
structure Scanner.CutsInBounds (text : String) (scanner : Scanner) : Prop where
  rest : IsPart text scanner.offset text.utf8ByteSize scanner.rest
  opener : ∀ offset, nextOpener scanner.offset scanner.rest = some offset →
    IsPart text scanner.offset offset (cutAt (offset - scanner.offset) scanner.rest).1 ∧
      IsPart text offset text.utf8ByteSize (cutAt (offset - scanner.offset) scanner.rest).2 ∧
      IsPart text (offset + 2) text.utf8ByteSize
        ((cutAt (offset - scanner.offset) scanner.rest).2.drop 2)
  span : ∀ opening, scanner.opening? = some opening → ∀ stop ∈ opening.stops,
    IsPart text opening.nameOffset stop (opening.cut stop).1 ∧
      IsPart text (stop + 2) text.utf8ByteSize ((opening.cut stop).2.drop 2)

theorem Scanner.Aligned.cutsInBounds {text : String} (aligned : scanner.Aligned text.toList) :
    scanner.CutsInBounds text where
  rest := by
    obtain ⟨front, whole, begins⟩ := aligned.passed
    rw [← begins]
    exact isPart_rest whole
  opener := by
    intro offset found
    obtain ⟨front, whole, begins⟩ := aligned.passed
    rw [nextOpener_eq_splitPair] at found
    obtain ⟨⟨skipped, inside⟩, opens, located⟩ := Option.map_eq_some_iff.mp found
    rw [splitPair_eq_some opens] at whole ⊢
    rw [← located, Nat.add_sub_cancel_left, cutAt_byteLength, ← begins]
    have upTo : text.toList = (front ++ skipped) ++ '{' :: '{' :: inside := by
      rw [whole, List.append_assoc]
    have past : text.toList = (front ++ skipped ++ ['{', '{']) ++ inside := by
      rw [upTo, List.append_assoc _ ['{', '{']]
      rfl
    have before := isPart_rest upTo
    have behind := isPart_rest past
    rw [byteLength_append_pair _ (by decide), byteLength_append] at behind
    rw [byteLength_append] at before
    exact ⟨isPart_of_append whole, before, behind⟩
  span := by
    intro opening located stop member
    obtain ⟨front, token, rest, whole, begins, ends, cut, -⟩ :=
      aligned.exists_span located member
    have past : text.toList = (front ++ token ++ ['}', '}']) ++ rest := by
      rw [whole, List.append_assoc, List.append_assoc]
      rfl
    have name := isPart_of_append whole
    have behind := isPart_rest past
    rw [byteLength_append_pair _ (by decide), byteLength_append] at behind
    rw [begins, ← ends] at name behind
    rw [cut]
    exact ⟨name, behind⟩

/-- A scan by a rule has its pieces from iterations that cut in bounds, and of which each begins
further on than the one before. So there are at most as many as the text has bytes, and one. -/
structure ScansInBounds (choose : Opening → Option Nat) (text : String) : Prop where
  pieces_eq : (Scanner.start text.toList).pieces choose =
    ((Scanner.start text.toList).visited choose).flatMap (Scanner.emitted choose)
  in_bounds : ∀ scanner ∈ (Scanner.start text.toList).visited choose, scanner.CutsInBounds text
  further : ((Scanner.start text.toList).visited choose).IsChain
    fun earlier later => earlier.offset < later.offset
  bounded : ((Scanner.start text.toList).visited choose).length ≤ text.utf8ByteSize + 1

theorem ClosesAtStops.scansInBounds (closes : ClosesAtStops choose) (text : String) :
    ScansInBounds choose text where
  pieces_eq := Scanner.pieces_eq_flatMap_visited choose _
  in_bounds := fun scanner member =>
    ((Scanner.aligned_start text.toList).of_mem_visited closes member).cutsInBounds
  further := (Scanner.aligned_start text.toList).isChain_visited closes
  bounded := by
    have whole := (Scanner.aligned_start text.toList).offset_add_length_visited_le closes
    rw [byteLength_toList] at whole
    exact (Nat.zero_add _).symm.trans_le whole

/-- Neither the scan of expansion (`boundPieces`), whatever names are bound, nor that of listing
(`mentions`) ever cuts a text out of bounds or stays where it is. -/
theorem expansion_and_listing_in_bounds (text : String) :
    (∀ (longest : Nat) (isBound : String → Bool),
        ScansInBounds (closeAtBound longest isBound) text) ∧
      ScansInBounds closeAtFirst text := by
  constructor
  · intro longest isBound
    exact (closesAtStops_closeAtBound longest isBound).scansInBounds text
  · exact closesAtStops_closeAtFirst.scansInBounds text

/-- Characters of two and of four bytes beside a run of braces, and an opener that nothing closes. -/
def wideRuns : String := "é\x7b\x7bá\x7d\x7d\x7d😀\x7b\x7b"

example :
    ((Scanner.start wideRuns.toList).visited (closeAtBound 3 (· = "á\x7d"))).map Scanner.offset =
        [0, 9] ∧
      ((Scanner.start wideRuns.toList).visited closeAtFirst).map Scanner.offset = [0, 8] := by
  decide +kernel

end Scaffold.Template
