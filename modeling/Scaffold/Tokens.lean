/-! Token sets: which text stands for which token name.

A token set binds every name at most once and keeps the order in which names were first bound.
Lookups are by exact name. Layers are merged by `overlay`, in which the upper layer wins; the
small laws below say what each operation does to a lookup, and nothing else needs to know how
the bindings are kept. -/

set_option autoImplicit false

namespace Scaffold

/-- Texts bound to distinct token names, in the order in which the names were first bound. -/
structure Tokens where
  bindings : List (String × String)
  names_distinct : (bindings.map Prod.fst).Nodup

namespace Tokens

def empty : Tokens := ⟨[], List.nodup_nil⟩

instance : EmptyCollection Tokens := ⟨empty⟩

instance : Inhabited Tokens := ⟨empty⟩

instance : DecidableEq Tokens := fun left right =>
  if same : left.bindings = right.bindings then
    .isTrue (by cases left; cases right; cases same; rfl)
  else .isFalse (by intro equal; exact same (congrArg Tokens.bindings equal))

def names (tokens : Tokens) : List String := tokens.bindings.map Prod.fst

def size (tokens : Tokens) : Nat := tokens.bindings.length

def get? (tokens : Tokens) (name : String) : Option String :=
  tokens.bindings.lookup name

def contains (tokens : Tokens) (name : String) : Bool := (tokens.get? name).isSome

def replaceIn (name value : String) : List (String × String) → List (String × String)
  | [] => []
  | (key, text) :: rest =>
      if key = name then (name, value) :: rest else (key, text) :: replaceIn name value rest

theorem map_fst_replaceIn (name value : String) (bindings : List (String × String)) :
    (replaceIn name value bindings).map Prod.fst = bindings.map Prod.fst := by
  induction bindings with
  | nil => rfl
  | cons binding rest ih =>
      obtain ⟨key, text⟩ := binding
      by_cases same : key = name
      · simp [replaceIn, same]
      · simp [replaceIn, same, ih]

/-- Bind a name: a new name goes to the end, a bound one keeps its place. -/
def insert (tokens : Tokens) (name value : String) : Tokens :=
  if bound : name ∈ tokens.bindings.map Prod.fst then
    ⟨replaceIn name value tokens.bindings, by
      rw [map_fst_replaceIn]
      exact tokens.names_distinct⟩
  else
    ⟨tokens.bindings ++ [(name, value)], by
      rw [List.map_append, List.nodup_append]
      refine ⟨tokens.names_distinct, by simp, ?_⟩
      intro earlier present later last equal
      simp only [List.map_cons, List.map_nil, List.mem_singleton] at last
      exact bound (last ▸ equal ▸ present)⟩

/-- The bindings of `upper` laid over those of `lower`: where both bind a name, `upper` wins. -/
def overlay (lower upper : Tokens) : Tokens :=
  upper.bindings.foldl (fun tokens binding => tokens.insert binding.1 binding.2) lower

/-- The token set of a list of bindings; of two bindings of one name the later wins. -/
def ofList (bindings : List (String × String)) : Tokens :=
  bindings.foldl (fun tokens binding => tokens.insert binding.1 binding.2) empty

/-- Byte length of the longest bound name, and 0 where nothing is bound. -/
def longestName (tokens : Tokens) : Nat :=
  tokens.bindings.foldl (fun longest binding => max longest binding.1.utf8ByteSize) 0

/-! ### Lookups after each operation -/

@[simp] theorem get?_empty (name : String) : empty.get? name = none := rfl

theorem lookup_binding (key text other : String) (rest : List (String × String)) :
    ((key, text) :: rest).lookup other = if other = key then some text else rest.lookup other := by
  by_cases hit : other = key
  · simp [hit]
  · simp [List.lookup_cons, hit, beq_false_of_ne hit]

theorem lookup_replaceIn (name value other : String) (bindings : List (String × String))
    (bound : name ∈ bindings.map Prod.fst) :
    (replaceIn name value bindings).lookup other =
      if other = name then some value else bindings.lookup other := by
  induction bindings with
  | nil => simp at bound
  | cons binding rest ih =>
      obtain ⟨key, text⟩ := binding
      by_cases here : key = name
      · subst here
        by_cases wanted : other = key <;> simp [replaceIn, lookup_binding, wanted]
      · have deeper : name ∈ rest.map Prod.fst := by
          simpa [Ne.symm here] using bound
        by_cases hit : other = key
        · subst hit
          simp [replaceIn, here]
        · simp [replaceIn, here, lookup_binding, hit, ih deeper]

theorem lookup_append_single (name value other : String) (bindings : List (String × String))
    (fresh : name ∉ bindings.map Prod.fst) :
    (bindings ++ [(name, value)]).lookup other =
      if other = name then some value else bindings.lookup other := by
  induction bindings with
  | nil => simp
  | cons binding rest ih =>
      obtain ⟨key, text⟩ := binding
      simp only [List.map_cons, List.mem_cons, not_or] at fresh
      by_cases hit : other = key
      · subst hit
        simp [Ne.symm fresh.1]
      · simp [lookup_binding, hit, ih fresh.2]

theorem get?_insert (tokens : Tokens) (name value other : String) :
    (tokens.insert name value).get? other =
      if other = name then some value else tokens.get? other := by
  unfold insert get?
  split
  next bound => exact lookup_replaceIn name value other tokens.bindings bound
  next fresh => exact lookup_append_single name value other tokens.bindings fresh

end Tokens

end Scaffold
