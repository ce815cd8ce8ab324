import Mathlib.Data.List.Pairwise
import Scaffold.Proofs.Output.Course

/-! Calls in any order.

Calls whose paths do not lead through each other share no more than directories around them, and each
makes those that are missing in the same way. So every call does in a run what it would do at the
beginning (`run_eq`): it comes to the same and changes the same, and such changes commute. Main
statement: `order_independent`. -/

set_option autoImplicit false

namespace Scaffold

open FileTree

/-! ### Changes -/

/-- What a call changes in a tree: the places of its directories and the modes they are made with, and
the content that it puts at the end of its path, if it does. -/
structure Change where
  directories : List Location
  mode : Location → UInt32
  place : Location
  content : Option ByteArray

namespace Change

def on (change : Change) (entries : Location → Option Entry) (location : Location) : Option Entry :=
  if location ∈ change.directories then (entries location).or (some (.directory (change.mode location)))
  else if location = change.place then (change.content.map Entry.file).or (entries location)
  else entries location

variable {change first second : Change} {entries : Location → Option Entry} {location : Location}

theorem on_eq_self (makes : change.directories = []) (writes : change.content = none) :
    change.on entries = entries := by
  funext location
  rw [on, makes, writes, if_neg List.not_mem_nil]
  split
  · rfl
  · rfl

/-- Two changes do not meet but in directories that both need. -/
structure Apart (first second : Change) : Prop where
  mode_eq : first.mode = second.mode
  places : first.place ≠ second.place
  left : first.place ∉ second.directories
  right : second.place ∉ first.directories

theorem Apart.on_comm (apart : Apart first second) (entries : Location → Option Entry) :
    first.on (second.on entries) = second.on (first.on entries) := by
  funext location
  by_cases inFirst : location ∈ first.directories
  · have other : location ≠ second.place := by
      rintro rfl
      exact apart.right inFirst
    by_cases inSecond : location ∈ second.directories
    · simp only [on, if_pos inFirst, if_pos inSecond, apart.mode_eq]
    · simp only [on, if_pos inFirst, if_neg inSecond, if_neg other]
  · by_cases atFirst : location = first.place
    · have outside : location ∉ second.directories := by
        rw [atFirst]
        exact apart.left
      have other : location ≠ second.place := by
        rw [atFirst]
        exact apart.places
      simp only [on, if_neg inFirst, if_pos atFirst, if_neg outside, if_neg other]
    · simp only [on, if_neg inFirst, if_neg atFirst]

theorem on_eq_of_not_mem (outside : location ∉ change.directories) (other : location ≠ change.place) :
    change.on entries location = entries location := by
  rw [on, if_neg outside, if_neg other]

instance : Std.Symm Apart where
  symm _ _ apart := ⟨apart.mode_eq.symm, apart.places.symm, apart.right, apart.left⟩

theorem foldl_on_perm {changes others : List Change} (same : others.Perm changes)
    (apart : changes.Pairwise Apart) (entries : Location → Option Entry) :
    others.foldl (fun entries change => change.on entries) entries =
      changes.foldl (fun entries change => change.on entries) entries := by
  refine (same.symm.foldl_eq' ?_ entries).symm
  intro first member second member' entries
  by_cases equal : first = second
  · rw [equal]
  · exact (apart.forall member' member (Ne.symm equal)).on_comm entries

end Change

namespace FileTree

variable {tree : FileTree} {path other : Path}

/-- Neither of two paths leads to the end of the other or beyond. -/
def Separate (tree : FileTree) (path other : Path) : Prop :=
  ¬ tree.spot path <:+ tree.spot other ∧ ¬ tree.spot other <:+ tree.spot path

theorem Separate.symm (separate : tree.Separate path other) : tree.Separate other path :=
  ⟨separate.2, separate.1⟩

theorem Separate.spot_ne (separate : tree.Separate path other) : tree.spot path ≠ tree.spot other :=
  fun equal => separate.1 ⟨[], equal⟩

theorem separate_iff_names (same : path.isAbsolute = other.isAbsolute) :
    tree.Separate path other ↔ ¬ path.names <+: other.names ∧ ¬ other.names <+: path.names := by
  rw [Separate, spot, spot, startOf, startOf, same, List.suffix_append_self_iff,
    List.suffix_append_self_iff, List.reverse_suffix, List.reverse_suffix]

end FileTree

namespace WriteCall

variable {call other : WriteCall} {calls others : List WriteCall} {world between : World}
  {location : Location} {again : Name}

def withTemporary (call : WriteCall) (temporary : Name) : WriteCall :=
  { call with temporary := temporary }

def keeps (call : WriteCall) (tree : FileTree) : Bool :=
  (call.onlyNew || !call.policy.mayReplace) && tree.exists? call.path

def writes (call : WriteCall) (world : World) : Bool :=
  match call.result world with
  | .ok written => written
  | .error _ => false

def change (call : WriteCall) (world : World) : Change where
  directories := if call.keeps world.tree then [] else (world.tree.clearance call.path).1
  mode := world.tree.newMode call.policy.directoryMode
  place := world.tree.spot call.path
  content := if call.writes world then some call.content.toUTF8 else none

/-- A call goes down only, and its name for the temporary file occurs neither in a tree nor in its
path and can stand in a path. -/
structure Ready (call : WriteCall) (tree : FileTree) : Prop where
  level : .up ∉ call.path.components
  unused : tree.IsUnused call.temporary
  unmentioned : call.temporary ∉ call.path.segments
  clean : 0 ∉ call.temporary

/-! ### One call -/

theorem result_eq (call : WriteCall) (world : World) :
    call.result world =
      if call.onlyNew && world.tree.exists? call.path then .ok false
      else (Action.runIn world
        (call.policy.write call.temporary call.path call.content)).1.map fun _ => true := by
  rw [result, runIn_action]
  split
  · rfl
  · rfl

theorem runIn_of_keeps (kept : call.keeps world.tree = true) :
    call.writes world = false ∧ (call.next world).tree = world.tree := by
  obtain ⟨asked, present⟩ := Bool.and_eq_true_iff.mp kept
  rw [writes, result, next, runIn_action, present, Bool.and_true]
  cases only : call.onlyNew with
  | true => exact ⟨rfl, rfl⟩
  | false =>
      rw [only, Bool.false_or] at asked
      rw [if_neg (by decide), WritePolicy.runIn_write, asked, present]
      exact ⟨rfl, rfl⟩

theorem runIn_of_not_keeps (fresh : call.keeps world.tree = false) :
    (!call.policy.mayReplace && world.tree.exists? call.path) = false ∧
      call.result world = (Action.runIn world
        (call.policy.write call.temporary call.path call.content)).1.map (fun _ => true) ∧
      (call.next world).tree = (Action.runIn world
        (call.policy.write call.temporary call.path call.content)).2.tree := by
  have neither : (call.onlyNew && world.tree.exists? call.path) = false ∧
      (!call.policy.mayReplace && world.tree.exists? call.path) = false := by
    rw [keeps, Bool.and_or_distrib_right, Bool.or_eq_false_iff] at fresh
    exact fresh
  rw [result, next, runIn_action, neither.1, if_neg (by decide)]
  exact ⟨neither.2, rfl, rfl⟩

theorem at?_next (linkFree : world.tree.LinkFree) (ready : call.Ready world.tree) :
    (call.next world).tree.at? = (call.change world).on world.tree.at? := by
  cases kept : call.keeps world.tree with
  | true =>
      obtain ⟨unwritten, same⟩ := runIn_of_keeps kept
      rw [same, Change.on_eq_self]
      · rw [change, kept]
        rfl
      · rw [change, unwritten]
        rfl
  | false =>
      obtain ⟨allowed, result, same⟩ := runIn_of_not_keeps kept
      obtain ⟨prepared, course⟩ := WritePolicy.write_takes_course call.policy call.content linkFree
        ready.level ready.unused ready.unmentioned allowed
      have cleared := course.cleared
      have apart : world.tree.spot call.path ∉ (world.tree.clearance call.path).1 :=
        fun member => (suffix_of_mem_clearance ready.level member).2 rfl
      -- A failed write leaves behind the directories that it made before it failed.
      funext location
      rw [same, change, kept, writes, result]
      rcases ran : (Action.runIn world
        (call.policy.write call.temporary call.path call.content)).1 with cause | done
      · rw [(course.unwritten (by rw [ran]; nofun)).at?_eq, cleared.at?_eq, Change.on]
        simp only [Bool.false_eq_true, if_false, Except.map]
        split
        · rfl
        · split
          · rfl
          · rfl
      · rw [(course.written ran).at?_eq, Change.on]
        simp only [Bool.false_eq_true, if_false, Except.map, if_true]
        by_cases here : location = world.tree.spot call.path
        · have outside : location ∉ (world.tree.clearance call.path).1 := by
            rw [here]
            exact apart
          rw [if_pos here, if_neg outside, if_pos here]
          rfl
        · rw [if_neg here, if_neg here, cleared.at?_eq]

/-! ### The same call elsewhere -/

theorem keeps_congr (sameWay : SameWay call.path world.tree between.tree)
    (linkFree : world.tree.LinkFree) (linkFree' : between.tree.LinkFree)
    (level : .up ∉ call.path.components) : call.keeps between.tree = call.keeps world.tree := by
  rw [keeps, keeps, sameWay.exists?_eq linkFree linkFree' level]

theorem result_congr (length : again.length = call.temporary.length)
    (sameWay : SameWay call.path world.tree between.tree) (linkFree : world.tree.LinkFree)
    (linkFree' : between.tree.LinkFree) (ready : call.Ready world.tree)
    (ready' : (call.withTemporary again).Ready between.tree) :
    (call.withTemporary again).result between = call.result world := by
  have written : (Action.runIn between (call.policy.write again call.path call.content)).1 =
      (Action.runIn world (call.policy.write call.temporary call.path call.content)).1 :=
    WritePolicy.result_write_congr call.policy call.content sameWay linkFree linkFree' ready.level
      ready.unused ready.unmentioned ready'.unused ready'.unmentioned ready.clean ready'.clean length
  have seen := sameWay.exists?_eq linkFree linkFree' ready.level
  rw [result_eq, result_eq]
  change (if call.onlyNew && between.tree.exists? call.path then _ else
    (Action.runIn between (call.policy.write again call.path call.content)).1.map _) = _
  rw [seen, written]

theorem change_congr (length : again.length = call.temporary.length)
    (sameWay : SameWay call.path world.tree between.tree) (linkFree : world.tree.LinkFree)
    (linkFree' : between.tree.LinkFree) (ready : call.Ready world.tree)
    (ready' : (call.withTemporary again).Ready between.tree) :
    (call.withTemporary again).change between = call.change world := by
  have kept : (call.withTemporary again).keeps between.tree = call.keeps world.tree :=
    keeps_congr sameWay linkFree linkFree' ready.level
  rw [change, change, writes, writes, kept,
    result_congr length sameWay linkFree linkFree' ready ready']
  simp only [withTemporary]
  have modes : between.tree.newMode call.policy.directoryMode =
      world.tree.newMode call.policy.directoryMode :=
    funext fun location => newMode_congr (sameWay.groupBit_eq location) _
  rw [sameWay.clearance_eq ready.level, spot_congr sameWay.workingDirectory_eq, modes]

/-! ### Calls on separate paths -/

theorem suffix_of_mem_directories (level : .up ∉ call.path.components)
    (member : location ∈ (call.change world).directories) :
    location <:+ world.tree.spot call.path := by
  rw [change] at member
  split at member
  · cases member
  · exact (suffix_of_mem_clearance level member).1

theorem apart_change (separate : world.tree.Separate call.path other.path)
    (level : .up ∉ call.path.components) (level' : .up ∉ other.path.components)
    (same : other.policy = call.policy) : (call.change world).Apart (other.change world) where
  mode_eq := by rw [change, change, same]
  places := separate.spot_ne
  left := fun member => separate.1 (suffix_of_mem_directories level' member)
  right := fun member => separate.2 (suffix_of_mem_directories level member)

/-- A call can still take its course as in an earlier tree. -/
structure Stands (call : WriteCall) (before tree : FileTree) : Prop where
  sameWay : SameWay call.path before tree
  ready : call.Ready tree

theorem Stands.next (stands : other.Stands world.tree between.tree)
    (first : call.Stands world.tree between.tree) (ready : call.Ready world.tree)
    (linkFree : world.tree.LinkFree) (linkFree' : between.tree.LinkFree)
    (unmentioned : other.temporary ∉ call.path.segments)
    (separate : world.tree.Separate call.path other.path) :
    other.Stands world.tree (call.next between).tree := by
  have confined := next_confined linkFree' first.ready.level first.ready.unused
    first.ready.unmentioned
  have change : call.change between = call.change world :=
    change_congr rfl first.sameWay linkFree linkFree' ready first.ready
  have changed := at?_next linkFree' first.ready
  rw [change] at changed
  refine ⟨⟨?_, ?_, ?_, ?_, ?_⟩, ?_⟩
  · exact confined.limits_eq.trans stands.sameWay.limits_eq
  · exact confined.workingDirectory_eq.trans stands.sameWay.workingDirectory_eq
  · -- A directory that is new on the way is not in the way.
    intro location onWay
    have aside : location ≠ (call.change world).place := by
      rintro rfl
      exact separate.1 onWay
    rw [← stands.sameWay.isTaken_eq location onWay, isTaken, isTaken, changed, Change.on,
      if_neg aside]
    split
    · cases between.tree.at? location with
      | none => rfl
      | some entry => rfl
    · rfl
  · rw [changed, Change.on_eq_of_not_mem, stands.sameWay.at?_spot]
    · exact fun member => separate.2 (suffix_of_mem_directories ready.level member)
    · exact separate.symm.spot_ne
  · exact fun location =>
      (confined.groupBit_eq location).trans (stands.sameWay.groupBit_eq location)
  · exact ⟨stands.ready.level, confined.isUnused stands.ready.unused unmentioned,
      stands.ready.unmentioned, stands.ready.clean⟩

/-! ### Runs -/

def request (call : WriteCall) : WriteCall := call.withTemporary []

def outcomes (world : World) : List WriteCall → List (WriteCall × Except Failure Bool)
  | [] => []
  | call :: calls => (call.request, call.result world) :: outcomes (call.next world) calls

/-- In a run each call comes to what it would come to at the beginning, and changes what it would
change there. -/
theorem run_eq (linkFree : world.tree.LinkFree) (linkFree' : between.tree.LinkFree)
    (stands : ∀ call ∈ calls, call.Stands world.tree between.tree)
    (ready : ∀ call ∈ calls, call.Ready world.tree)
    (unmentioned : ∀ call ∈ calls, ∀ other ∈ calls, call.temporary ∉ other.path.segments)
    (separate : calls.Pairwise fun call other => world.tree.Separate call.path other.path) :
    outcomes between calls = calls.map (fun call => (call.request, call.result world)) ∧
      (worldAfter between calls).tree.limits = between.tree.limits ∧
      (worldAfter between calls).tree.workingDirectory = between.tree.workingDirectory ∧
      (worldAfter between calls).tree.at? = (calls.map (change · world)).foldl
        (fun entries change => change.on entries) between.tree.at? := by
  -- By induction on the calls: each call that is still to come stands as at the beginning.
  induction calls generalizing between with
  | nil => exact ⟨rfl, rfl, rfl, rfl⟩
  | cons call calls ih =>
      rw [List.forall_mem_cons] at stands ready
      obtain ⟨apart, separate⟩ := List.pairwise_cons.mp separate
      have confined := next_confined linkFree' stands.1.ready.level stands.1.ready.unused
        stands.1.ready.unmentioned
      have result : call.result between = call.result world :=
        result_congr rfl stands.1.sameWay linkFree linkFree' ready.1 stands.1.ready
      have change : call.change between = call.change world :=
        change_congr rfl stands.1.sameWay linkFree linkFree' ready.1 stands.1.ready
      have later : ∀ other ∈ calls, other.Stands world.tree (call.next between).tree :=
        fun other member => (stands.2 other member).next stands.1 ready.1 linkFree linkFree'
          (unmentioned other (List.mem_cons_of_mem _ member) call List.mem_cons_self)
          (apart other member)
      obtain ⟨outcomes_eq, limits, place, entries⟩ := ih confined.linkFree later ready.2
        (fun one member other member' => unmentioned one (List.mem_cons_of_mem _ member) other
          (List.mem_cons_of_mem _ member')) separate
      refine ⟨?_, limits.trans confined.limits_eq, place.trans confined.workingDirectory_eq, ?_⟩
      · rw [outcomes, outcomes_eq, result, List.map_cons]
      · rw [at?_next linkFree' stands.1.ready, change] at entries
        exact entries

/-! ### Any order -/

/-- A name for a temporary file that has a given length, can stand in a path, and occurs neither in a
tree nor in the path of a call. -/
structure Spare (name : Name) (length : Nat) (calls : List WriteCall) (tree : FileTree) : Prop where
  unused : tree.IsUnused name
  clean : 0 ∉ name
  length_eq : name.length = length
  unmentioned : ∀ call ∈ calls, name ∉ call.path.segments

/-- What is read off calls in two orders is the same if it depends on what they ask for only. -/
theorem map_perm_of_requests {β : Type} {reading : WriteCall → β} (ofRequest : WriteCall → β)
    (reordered : (others.map request).Perm (calls.map request))
    (depends : ∀ call ∈ calls ++ others, reading call = ofRequest call.request) :
    (others.map reading).Perm (calls.map reading) := by
  rw [List.forall_mem_append] at depends
  rw [List.map_congr_left depends.1, List.map_congr_left depends.2]
  have mapped := reordered.map ofRequest
  rwa [List.map_map, List.map_map] at mapped

theorem separate_of_requests {tree : FileTree}
    (reordered : (others.map request).Perm (calls.map request))
    (separate : calls.Pairwise fun call other => tree.Separate call.path other.path) :
    others.Pairwise fun call other => tree.Separate call.path other.path := by
  have paths : (others.map path).Perm (calls.map path) := by
    have mapped := reordered.map path
    rwa [List.map_map, List.map_map] at mapped
  rw [← List.pairwise_map] at separate ⊢
  exact paths.symm.pairwise separate Separate.symm

theorem run_eq_of_ready (linkFree : world.tree.LinkFree)
    (ready : ∀ call ∈ calls, call.Ready world.tree)
    (unmentioned : ∀ call ∈ calls, ∀ other ∈ calls, call.temporary ∉ other.path.segments)
    (separate : calls.Pairwise fun call other => world.tree.Separate call.path other.path) :
    outcomes world calls = calls.map (fun call => (call.request, call.result world)) ∧
      (worldAfter world calls).tree.limits = world.tree.limits ∧
      (worldAfter world calls).tree.workingDirectory = world.tree.workingDirectory ∧
      (worldAfter world calls).tree.at? = (calls.map (change · world)).foldl
        (fun entries change => change.on entries) world.tree.at? :=
  run_eq linkFree linkFree (fun call member => ⟨.refl _ _, ready call member⟩) ready unmentioned
    separate

theorem ready_of_requests {length : Nat} {name : Name} {tree : FileTree}
    (reordered : (others.map request).Perm (calls.map request))
    (level : ∀ call ∈ calls, .up ∉ call.path.components) (spare : Spare name length calls tree)
    (member : call ∈ calls ++ others) : (call.withTemporary name).Ready tree := by
  have asked : call.request ∈ calls.map request := by
    rcases List.mem_append.mp member with inside | inside
    · exact List.mem_map_of_mem inside
    · exact reordered.subset (List.mem_map_of_mem inside)
  obtain ⟨one, inside, equal⟩ := List.mem_map.mp asked
  have path : one.path = call.path := by
    change one.request.path = call.request.path
    rw [equal]
  refine ⟨path ▸ level one inside, spare.unused, ?_, spare.clean⟩
  exact path ▸ spare.unmentioned one inside

theorem eq_of_request (length : again.length = call.temporary.length)
    (linkFree : world.tree.LinkFree) (ready : call.Ready world.tree)
    (ready' : (call.withTemporary again).Ready world.tree) :
    call.result world = (call.request.withTemporary again).result world ∧
      call.change world = (call.request.withTemporary again).change world :=
  ⟨(result_congr length (.refl _ _) linkFree linkFree ready ready').symm,
    (change_congr length (.refl _ _) linkFree linkFree ready ready').symm⟩

/-- Calls of one writer on paths that do not lead through each other come to the same in any order,
each one to what it comes to in the other order, and leave the same tree, directory modes and failed
calls included. -/
theorem order_independent (policy : WritePolicy) (world : World) (calls others : List WriteCall)
    (absolute : Bool) (length : Nat) (linkFree : world.tree.LinkFree)
    (same : ∀ call ∈ calls, call.policy = policy)
    (normal : ∀ call ∈ calls, .up ∉ call.path.components ∧ call.path.isAbsolute = absolute)
    (separate : calls.Pairwise fun call other =>
      ¬ call.path.names <+: other.path.names ∧ ¬ other.path.names <+: call.path.names)
    (spare : ∀ call ∈ calls ++ others, Spare call.temporary length calls world.tree)
    (reordered : (others.map request).Perm (calls.map request)) :
    (outcomes world others).Perm (outcomes world calls) ∧
      Alike (worldAfter world calls).tree (worldAfter world others).tree := by
  have ready {name : Name} (spare : Spare name length calls world.tree) {call : WriteCall}
      (member : call ∈ calls ++ others) : (call.withTemporary name).Ready world.tree :=
    ready_of_requests reordered (fun call inside => (normal call inside).1) spare member
  have separate : calls.Pairwise fun call other => world.tree.Separate call.path other.path := by
    refine separate.imp_of_mem fun member member' apart => ?_
    rw [separate_iff_names ((normal _ member).2.trans (normal _ member').2.symm)]
    exact apart
  have run {some : List WriteCall} (inside : some ⊆ calls ++ others)
      (separate : some.Pairwise fun call other => world.tree.Separate call.path other.path) :=
    run_eq_of_ready linkFree
      (fun call member => ready (spare call (inside member)) (inside member))
      (fun call member other member' => (ready (spare call (inside member))
        (inside member')).unmentioned) separate
  obtain ⟨came, limits, place, entries⟩ := run (List.subset_append_left _ _) separate
  obtain ⟨came', limits', place', entries'⟩ :=
    run (List.subset_append_right _ _) (separate_of_requests reordered separate)
  by_cases none : calls = []
  · subst none
    cases List.map_eq_nil_iff.mp (List.perm_nil.mp reordered)
    exact ⟨.refl _, .refl _⟩
  · -- One name stands for all, as no name tells what a call comes to.
    obtain ⟨first, inside⟩ := List.exists_mem_of_ne_nil calls none
    have one := spare first (List.mem_append_left _ inside)
    have known {call : WriteCall} (member : call ∈ calls ++ others) :=
      eq_of_request (one.length_eq.trans (spare call member).length_eq.symm) linkFree
        (ready (spare call member) member) (ready one member)
    constructor
    · rw [came, came']
      refine map_perm_of_requests
        (fun request => (request, (request.withTemporary first.temporary).result world)) reordered ?_
      intro call member
      rw [(known member).1]
    · have changed := map_perm_of_requests
        (fun request => (request.withTemporary first.temporary).change world) reordered
        (fun call member => (known member).2)
      have apart : (calls.map (change · world)).Pairwise Change.Apart := by
        refine List.pairwise_map.mpr (separate.imp_of_mem fun member member' separate => ?_)
        exact apart_change separate (normal _ member).1 (normal _ member').1
          ((same _ member').trans (same _ member).symm)
      refine ⟨limits'.trans limits.symm, place'.trans place.symm, fun location => ?_⟩
      rw [entries, entries', Change.foldl_on_perm changed apart]

def crowdedWorld : World :=
  World.ofTree ((((FileTree.fresh.place [Text.encode "f", Text.encode "w"] (.file "old".toUTF8)).place
    [Text.encode "g", Text.encode "w"] (.file "old".toUTF8)).place
    [Text.encode "h", Text.encode "w"] (.file "old".toUTF8)).place
    [Text.encode "d", Text.encode "w"] (.directory 0o700))

/-- Calls of which the first two share a directory that is missing, the third keeps a file, and the
others fail: two find something at their path, one finds a file in the way, and the last one makes
`b/c` before it finds a name too long. -/
def crowdedCalls : List WriteCall :=
  [ofText false "a/x" "1", ofText true "a/y" "2", ofText true "f" "3", ofText false "g" "4",
    ofText false "d" "5", ofText false "h/z/x" "6",
    ofText false ("b/c/" ++ String.ofList (List.replicate 256 'n') ++ "/x") "7"]

def backwardCalls : List WriteCall :=
  crowdedCalls.reverse.map (·.withTemporary (Text.encode ".tmp-1"))

theorem order_independent_crowdedCalls :
    (outcomes crowdedWorld crowdedCalls).map (·.2.toOption) =
        [some true, some true, some false, none, none, none, none] ∧
      (worldAfter crowdedWorld crowdedCalls).tree.isDirectory (Path.ofString "b/c") = true ∧
      (outcomes crowdedWorld backwardCalls).Perm (outcomes crowdedWorld crowdedCalls) ∧
      Alike (worldAfter crowdedWorld crowdedCalls).tree
        (worldAfter crowdedWorld backwardCalls).tree := by
  have spare : ∀ call ∈ crowdedCalls ++ backwardCalls,
      (Path.IsName call.temporary ∧ call.temporary ∉ crowdedWorld.tree.usedNames) ∧
        0 ∉ call.temporary ∧ call.temporary.length = 6 ∧
          ∀ other ∈ crowdedCalls, call.temporary ∉ other.path.segments := by
    decide +kernel
  have reordered : (backwardCalls.map request).Perm (crowdedCalls.map request) := by
    rw [backwardCalls, List.map_map, List.map_reverse]
    exact List.reverse_perm _
  refine ⟨by decide +kernel, by decide +kernel, ?_⟩
  refine order_independent {} crowdedWorld crowdedCalls backwardCalls false 6
    (linkFree_of_entries (by decide +kernel)) (by decide +kernel) (by decide +kernel)
    (by decide +kernel) ?_ reordered
  intro call member
  obtain ⟨⟨proper, unused⟩, clean, length, unmentioned⟩ := spare call member
  exact ⟨isUnused_of_not_mem_usedNames proper unused, clean, length, unmentioned⟩

end WriteCall

end Scaffold
