import Mathlib.Data.List.Basic
import Scaffold.Template.Expand

/-! Spans of a template, without offsets.

The scan of `Scaffold.Template.Scan` counts bytes and keeps the place of the last `}}`. Here the same
spans are read off the characters alone: `spanAt` looks at the beginning of a text and a rule says
which span, if any, opens there. Main statement: for every rule on characters, a scan whose closing
choice follows the rule finds exactly these spans (`pieces_eq_atomsOf`). -/

set_option autoImplicit false

namespace Scaffold.Template

open Scaffold.Text

/-! ### Cuts at the end of a known beginning -/

theorem cutAt_byteLength (front back : List Char) :
    cutAt (byteLength front) (front ++ back) = (front, back) := by
  induction front with
  | nil =>
      cases back with
      | nil => rfl
      | cons c rest =>
          have positive := c.utf8Size_pos
          have refused : ¬ c.utf8Size ≤ 0 := by omega
          simp only [byteLength, List.nil_append, cutAt, if_neg refused]
  | cons c rest ih =>
      have fits : c.utf8Size ≤ c.utf8Size + byteLength rest := Nat.le_add_right _ _
      simp only [byteLength, List.cons_append, cutAt, if_pos fits, Nat.add_sub_cancel_left, ih]

theorem byteLength_append_ascii (front : List Char) {c : Char} (ascii : c.utf8Size = 1) :
    byteLength (front ++ [c]) = byteLength front + 1 := by
  rw [byteLength_append, byteLength, ascii]
  rfl

theorem byteLength_append_pair (front : List Char) {brace : Char} (ascii : brace.utf8Size = 1) :
    byteLength (front ++ [brace, brace]) = byteLength front + 2 := by
  rw [List.append_cons, byteLength_append_ascii _ ascii, byteLength_append_ascii _ ascii]

/-! ### The first closing and the first opener -/

/-- The text before the first pair of a brace with itself, and the text after that pair. -/
def splitPair (brace : Char) : List Char → Option (List Char × List Char)
  | [] => none
  | c :: rest =>
      if c = brace ∧ rest.head? = some brace then some ([], rest.drop 1)
      else (splitPair brace rest).map fun (front, back) => (c :: front, back)

theorem splitPair_of_pair (brace : Char) (rest : List Char) :
    splitPair brace (brace :: brace :: rest) = some ([], rest) := by
  rw [splitPair, if_pos ⟨rfl, rfl⟩]
  rfl

theorem splitPair_of_not_pair {brace c : Char} {rest : List Char}
    (apart : ¬ (c = brace ∧ rest.head? = some brace)) :
    splitPair brace (c :: rest) =
      (splitPair brace rest).map fun (front, back) => (c :: front, back) := by
  rw [splitPair, if_neg apart]

theorem splitPair_eq_some {brace : Char} {text front back : List Char}
    (split : splitPair brace text = some (front, back)) :
    text = front ++ brace :: brace :: back := by
  induction text generalizing front with
  | nil => cases split
  | cons c rest ih =>
      rw [splitPair] at split
      split at split
      next paired =>
          obtain ⟨rfl, second⟩ := paired
          cases split
          cases rest with
          | nil => cases second
          | cons d rest =>
              cases second
              rfl
      next =>
          obtain ⟨⟨inner, behind⟩, found, same⟩ := Option.map_eq_some_iff.mp split
          cases same
          rw [List.cons_append, ← ih found]

theorem nextClosing_eq_splitPair (offset : Nat) (text : List Char) :
    nextClosing offset text =
      (splitPair '}' text).map fun (name, after) =>
        ⟨offset + byteLength name, after.head? = some '}'⟩ := by
  induction text generalizing offset with
  | nil => rfl
  | cons c rest ih =>
      cases rest with
      | nil => simp [nextClosing, splitPair]
      | cons d rest =>
          by_cases closes : c = '}' ∧ d = '}'
          · obtain ⟨rfl, rfl⟩ := closes
            rfl
          · have apart : ¬ (c = '}' ∧ (d :: rest).head? = some '}') := by
              simpa only [List.head?_cons, Option.some.injEq] using closes
            rw [nextClosing, if_neg closes, ih, splitPair_of_not_pair apart, Option.map_map]
            congr 1
            funext pair
            simp only [Function.comp, byteLength, Nat.add_assoc]

theorem nextOpener_eq_splitPair (offset : Nat) (text : List Char) :
    nextOpener offset text =
      (splitPair '{' text).map fun (skipped, _) => offset + byteLength skipped := by
  induction text generalizing offset with
  | nil => rfl
  | cons c rest ih =>
      cases rest with
      | nil => simp [nextOpener, splitPair]
      | cons d rest =>
          by_cases opens : c = '{' ∧ d = '{'
          · obtain ⟨rfl, rfl⟩ := opens
            rfl
          · have apart : ¬ (c = '{' ∧ (d :: rest).head? = some '{') := by
              simpa only [List.head?_cons, Option.some.injEq] using opens
            rw [nextOpener, if_neg opens, ih, splitPair_of_not_pair apart, Option.map_map]
            congr 1
            funext pair
            simp only [Function.comp, byteLength, Nat.add_assoc]

/-- A closing stays the first one for every part of the text that reaches up to it. -/
theorem nextClosing_of_append {offset : Nat} {front back : List Char} {closing : Closing}
    (located : nextClosing offset (front ++ back) = some closing)
    (ahead : offset + byteLength front ≤ closing.offset) :
    nextClosing (offset + byteLength front) back = some closing := by
  induction front generalizing offset with
  | nil => exact located
  | cons c rest ih =>
      have positive := c.utf8Size_pos
      rw [byteLength] at ahead
      cases joined : rest ++ back with
      | nil =>
          rw [List.cons_append, joined] at located
          cases located
      | cons d further =>
          rw [List.cons_append, joined, nextClosing] at located
          by_cases closes : c = '}' ∧ d = '}'
          · rw [if_pos closes] at located
            cases located
            simp only at ahead
            omega
          · rw [if_neg closes, ← joined] at located
            have later := ih located (by omega)
            rwa [byteLength, ← Nat.add_assoc]

/-! ### Scans that hold the right closing -/

def Scanner.Current (scanner : Scanner) : Prop :=
  ∀ closing, scanner.closing = some closing → ∀ front back, scanner.rest = front ++ back →
    scanner.offset + byteLength front ≤ closing.offset →
      nextClosing (scanner.offset + byteLength front) back = some closing

theorem Scanner.current_start (text : List Char) : (Scanner.start text).Current := by
  intro closing kept
  cases kept

theorem Scanner.closingFrom_eq {scanner : Scanner} (current : scanner.Current)
    {front back : List Char} (divided : scanner.rest = front ++ back) :
    scanner.closingFrom (scanner.offset + byteLength front) back =
      nextClosing (scanner.offset + byteLength front) back := by
  unfold Scanner.closingFrom
  cases kept : scanner.closing with
  | none => rfl
  | some closing =>
      by_cases behind : closing.offset < scanner.offset + byteLength front
      · simp only [if_pos behind]
      · simp only [if_neg behind]
        exact (current closing kept front back divided (by omega)).symm

/-- The opening of a scan, in terms of the text alone. -/
theorem Scanner.opening?_eq {scanner : Scanner} (current : scanner.Current) :
    scanner.opening? =
      (splitPair '{' scanner.rest).bind fun (skipped, inside) =>
        (splitPair '}' inside).map fun (name, after) =>
          ⟨skipped, scanner.offset + byteLength skipped, '{' :: '{' :: inside,
            ⟨scanner.offset + byteLength skipped + 2 + byteLength name,
              after.head? = some '}'⟩⟩ := by
  unfold Scanner.opening?
  rw [nextOpener_eq_splitPair]
  cases split : splitPair '{' scanner.rest with
  | none => rfl
  | some pair =>
      obtain ⟨skipped, inside⟩ := pair
      have divided := splitPair_eq_some split
      have cut : cutAt (byteLength skipped) scanner.rest = (skipped, '{' :: '{' :: inside) := by
        rw [divided, cutAt_byteLength]
      have whole : scanner.rest = (skipped ++ ['{', '{']) ++ inside := by
        rw [divided, List.append_assoc]
        rfl
      have closing := Scanner.closingFrom_eq current whole
      rw [byteLength_append_pair skipped (by decide), ← Nat.add_assoc,
        nextClosing_eq_splitPair] at closing
      simp only [Option.map_some, Nat.add_sub_cancel_left, cut, List.drop_succ_cons,
        List.drop_zero, closing, Option.map_map, Option.bind_some, Function.comp_def]

/-! ### The spans of a text under a rule -/

/-- A rule for closing spans. It sees the text between an opener and the first `}}`, and the text
after that; it gives the name of the span and the text after the span, or declines. -/
structure Rule where
  close : List Char → List Char → Option (List Char × List Char)
  sound : ∀ name after token rest, close name after = some (token, rest) →
    name ++ '}' :: '}' :: after = token ++ '}' :: '}' :: rest

def spanAt (rule : Rule) : List Char → Option (List Char × List Char)
  | '{' :: '{' :: inside =>
      (splitPair '}' inside).bind fun (name, after) => rule.close name after
  | _ => none

theorem spanAt_sound {rule : Rule} {text token rest : List Char}
    (span : spanAt rule text = some (token, rest)) :
    text = '{' :: '{' :: token ++ '}' :: '}' :: rest := by
  unfold spanAt at span
  split at span
  next inside =>
      obtain ⟨⟨name, after⟩, split, closed⟩ := Option.bind_eq_some_iff.mp span
      rw [splitPair_eq_some split, rule.sound name after token rest closed]
      rfl
  next => cases span

theorem length_lt_of_spanAt {rule : Rule} {text token rest : List Char}
    (span : spanAt rule text = some (token, rest)) : rest.length < text.length := by
  rw [spanAt_sound span]
  simp only [List.length_append, List.length_cons]
  omega

/-- The characters and spans of a text in order; each literal piece is one character. -/
def atomsOf (rule : Rule) (text : List Char) : List Piece :=
  match _span : spanAt rule text with
  | some (token, rest) => .token token :: atomsOf rule rest
  | none =>
      match text with
      | [] => []
      | c :: rest => .literal [c] :: atomsOf rule rest
termination_by text.length
decreasing_by
  · exact length_lt_of_spanAt _span
  · simp

theorem atomsOf_nil (rule : Rule) : atomsOf rule [] = [] := by
  rw [atomsOf]
  rfl

theorem atomsOf_of_span {rule : Rule} {text token rest : List Char}
    (span : spanAt rule text = some (token, rest)) :
    atomsOf rule text = .token token :: atomsOf rule rest := by
  rw [atomsOf]
  split
  next found => rw [span] at found; cases found; rfl
  next missing => rw [span] at missing; cases missing

theorem atomsOf_of_no_span {rule : Rule} {c : Char} {rest : List Char}
    (missing : spanAt rule (c :: rest) = none) :
    atomsOf rule (c :: rest) = .literal [c] :: atomsOf rule rest := by
  rw [atomsOf]
  split
  next found => rw [missing] at found; cases found
  next => rfl

def characters (text : List Char) : List Piece := text.map fun c => .literal [c]

theorem spanAt_of_not_pair {rule : Rule} {c : Char} {rest : List Char}
    (apart : ¬ (c = '{' ∧ rest.head? = some '{')) : spanAt rule (c :: rest) = none := by
  unfold spanAt
  split
  next inside same =>
      cases same
      exact absurd ⟨rfl, rfl⟩ apart
  next => rfl

theorem atomsOf_of_no_opener {rule : Rule} {text : List Char}
    (missing : splitPair '{' text = none) : atomsOf rule text = characters text := by
  induction text with
  | nil => exact atomsOf_nil rule
  | cons c rest ih =>
      by_cases paired : c = '{' ∧ rest.head? = some '{'
      · rw [splitPair, if_pos paired] at missing
        cases missing
      · rw [splitPair_of_not_pair paired, Option.map_eq_none_iff] at missing
        rw [atomsOf_of_no_span (spanAt_of_not_pair paired), ih missing]
        rfl

theorem atomsOf_of_opener {rule : Rule} {text skipped inside : List Char}
    (split : splitPair '{' text = some (skipped, inside)) :
    atomsOf rule text = characters skipped ++ atomsOf rule ('{' :: '{' :: inside) := by
  induction text generalizing skipped with
  | nil => cases split
  | cons c rest ih =>
      by_cases paired : c = '{' ∧ rest.head? = some '{'
      · have divided := splitPair_eq_some split
        rw [splitPair, if_pos paired] at split
        cases split
        rw [divided]
        rfl
      · rw [splitPair_of_not_pair paired] at split
        obtain ⟨⟨inner, behind⟩, found, same⟩ := Option.map_eq_some_iff.mp split
        cases same
        rw [atomsOf_of_no_span (spanAt_of_not_pair paired), ih found]
        rfl

theorem splitPair_tail {brace c : Char} {rest : List Char}
    (missing : splitPair brace (c :: rest) = none) : splitPair brace rest = none := by
  rw [splitPair] at missing
  split at missing
  · cases missing
  · exact Option.map_eq_none_iff.mp missing

theorem atomsOf_of_no_closing {rule : Rule} {text : List Char}
    (missing : splitPair '}' text = none) : atomsOf rule text = characters text := by
  induction text with
  | nil => exact atomsOf_nil rule
  | cons c rest ih =>
      have later := splitPair_tail missing
      have unspanned : spanAt rule (c :: rest) = none := by
        unfold spanAt
        split
        next inside same =>
            cases same
            rw [splitPair_tail later]
            rfl
        next => rfl
      rw [atomsOf_of_no_span unspanned, ih later]
      rfl

/-! ### A scan finds the spans of its rule -/

def Piece.atoms : Piece → List Piece
  | .literal text => characters text
  | .token name => [.token name]

/-- A choice of closings by offset that agrees with a rule on characters. -/
def Follows (choose : Opening → Option Nat) (rule : Rule) : Prop :=
  ∀ opening name after, splitPair '}' opening.inside = some (name, after) →
    opening.closing = ⟨opening.nameOffset + byteLength name, after.head? = some '}'⟩ →
      choose opening =
        (rule.close name after).map fun (token, _) => opening.nameOffset + byteLength token

theorem Opening.cut_eq {opening : Opening} {token rest : List Char}
    (divided : opening.inside = token ++ '}' :: '}' :: rest) :
    opening.cut (opening.nameOffset + byteLength token) = (token, '}' :: '}' :: rest) := by
  rw [Opening.cut, Nat.add_sub_cancel_left, divided, cutAt_byteLength]

/-- A scan that goes on inside the text of a closing holds that closing rightly. -/
theorem Scanner.current_of_nextClosing {scanner : Scanner} {closing : Closing} {start : Nat}
    {passed inside rest : List Char}
    (located : nextClosing start inside = some closing)
    (divided : inside = passed ++ rest)
    (kept : scanner.closing = some closing) (begins : scanner.offset = start + byteLength passed)
    (remaining : scanner.rest = rest) : scanner.Current := by
  intro other same front back parts ahead
  rw [kept] at same
  cases same
  have whole : inside = (passed ++ front) ++ back := by
    rw [divided, ← remaining, parts, List.append_assoc]
  rw [begins, Nat.add_assoc, ← byteLength_append] at ahead ⊢
  rw [whole] at located
  exact nextClosing_of_append located ahead

/-- What an opening found by a scan is made of: the text inside it divides at the first `}}`. -/
structure Opening.Parts (opening : Opening) (scanner : Scanner)
    (inside name after : List Char) : Prop where
  opens : splitPair '{' scanner.rest = some (opening.skipped, inside)
  closes : splitPair '}' inside = some (name, after)
  found_eq : opening.found = '{' :: '{' :: inside
  closing_eq : opening.closing =
    ⟨opening.nameOffset + byteLength name, after.head? = some '}'⟩

theorem Scanner.exists_parts {scanner : Scanner} {opening : Opening}
    (current : scanner.Current) (located : scanner.opening? = some opening) :
    ∃ inside name after, opening.Parts scanner inside name after := by
  rw [Scanner.opening?_eq current] at located
  obtain ⟨⟨skipped, inside⟩, opens, closed⟩ := Option.bind_eq_some_iff.mp located
  obtain ⟨⟨name, after⟩, closes, same⟩ := Option.map_eq_some_iff.mp closed
  cases same
  exact ⟨inside, name, after, opens, closes, rfl, rfl⟩

namespace Opening.Parts

variable {opening : Opening} {scanner : Scanner} {inside name after : List Char}

theorem inside_eq (parts : opening.Parts scanner inside name after) :
    opening.inside = inside := by
  rw [Opening.inside, parts.found_eq]
  rfl

theorem current_resumeInside (parts : opening.Parts scanner inside name after) :
    opening.resumeInside.Current := by
  have apart : ¬ ('{' = '}' ∧ inside.head? = some '}') := by
    intro paired
    exact absurd paired.1 (by decide)
  have located : nextClosing (opening.offset + 1) ('{' :: inside) = some opening.closing := by
    rw [nextClosing_eq_splitPair, splitPair_of_not_pair apart, parts.closes, parts.closing_eq]
    have one : '{'.utf8Size = 1 := by decide
    simp only [Option.map_some, byteLength, one, Opening.nameOffset, Nat.add_assoc]
    congr 3
    omega
  refine Scanner.current_of_nextClosing located (List.nil_append _).symm rfl rfl ?_
  rw [Opening.resumeInside, parts.found_eq]
  rfl

theorem current_resumeAfter (parts : opening.Parts scanner inside name after)
    {token rest : List Char} (divided : inside = token ++ '}' :: '}' :: rest) :
    (opening.resumeAfter (opening.nameOffset + byteLength token)).Current := by
  have located : nextClosing opening.nameOffset inside = some opening.closing := by
    rw [nextClosing_eq_splitPair, parts.closes, parts.closing_eq]
    rfl
  have whole : inside = (token ++ ['}', '}']) ++ rest := by
    rw [divided, List.append_assoc]
    rfl
  refine Scanner.current_of_nextClosing located whole rfl ?_ ?_
  · rw [byteLength_append_pair token (by decide), ← Nat.add_assoc]
    rfl
  · rw [Opening.resumeAfter, Opening.cut_eq (parts.inside_eq.trans divided)]
    rfl

end Opening.Parts

/-- A scan finds the spans of its rule, whatever it keeps of earlier closings and however early it
stops. -/
theorem Scanner.atoms_pieces {choose : Opening → Option Nat} {rule : Rule}
    (follows : Follows choose rule) {scanner : Scanner} (current : scanner.Current) :
    (scanner.pieces choose).flatMap Piece.atoms = atomsOf rule scanner.rest := by
  fun_induction Scanner.pieces choose scanner with
  | case1 scanner located =>
      rw [Scanner.opening?_eq current] at located
      have idle : atomsOf rule scanner.rest = characters scanner.rest := by
        cases opens : splitPair '{' scanner.rest with
        | none => exact atomsOf_of_no_opener opens
        | some pair =>
            obtain ⟨skipped, inside⟩ := pair
            rw [opens, Option.bind_some, Option.map_eq_none_iff] at located
            have unclosed : splitPair '}' ('{' :: '{' :: inside) = none := by
              rw [splitPair, if_neg (by simp), splitPair, if_neg (by simp), located]
              rfl
            rw [atomsOf_of_opener opens, atomsOf_of_no_closing unclosed, splitPair_eq_some opens]
            simp only [characters, List.map_append]
      rw [idle]
      simp only [List.flatMap_cons, List.flatMap_nil, List.append_nil, Piece.atoms]
  | case2 scanner opening located stop chosen ih =>
      obtain ⟨inside, name, after, parts⟩ := Scanner.exists_parts current located
      rw [follows opening name after (by rw [parts.inside_eq, parts.closes]) parts.closing_eq]
        at chosen
      obtain ⟨⟨token, rest⟩, closed, rfl⟩ := Option.map_eq_some_iff.mp chosen
      have divided : inside = token ++ '}' :: '}' :: rest := by
        rw [splitPair_eq_some parts.closes]
        exact rule.sound name after token rest closed
      have span : spanAt rule ('{' :: '{' :: inside) = some (token, rest) := by
        rw [spanAt, parts.closes]
        exact closed
      have later := ih (parts.current_resumeAfter divided)
      have cut := Opening.cut_eq (parts.inside_eq.trans divided)
      rw [Opening.resumeAfter, cut] at later
      rw [atomsOf_of_opener parts.opens, atomsOf_of_span span]
      simp only [List.flatMap_cons, Opening.resumeAfter, cut, later]
      rfl
  | case3 scanner opening located declined ih =>
      obtain ⟨inside, name, after, parts⟩ := Scanner.exists_parts current located
      rw [follows opening name after (by rw [parts.inside_eq, parts.closes]) parts.closing_eq,
        Option.map_eq_none_iff] at declined
      have unspanned : spanAt rule ('{' :: '{' :: inside) = none := by
        rw [spanAt, parts.closes]
        exact declined
      have later := ih parts.current_resumeInside
      rw [Opening.resumeInside, parts.found_eq] at later
      rw [atomsOf_of_opener parts.opens, atomsOf_of_no_span unspanned]
      simp only [List.flatMap_cons, Opening.resumeInside, parts.found_eq, later]
      rfl

end Scaffold.Template
