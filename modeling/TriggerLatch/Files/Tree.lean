import TriggerLatch.Text.Utf8

/-!
# File trees

A `Tree` is the content of a directory: a row of entries, each a file with its bytes or a directory
with a tree of its own.  Places in a tree are rows of names.  `Tree.at?` looks a place up,
`Tree.put` fills one and `Tree.delete` empties one.  Both are `Tree.alter`, which leaves the places
apart from the one that it alters alone (`at?_alter_of_apart`); what they do to the place itself is
`at?_put_self` and `at?_delete_self`.
-/

namespace TriggerLatch.Files

/-- The content of a directory. -/
inductive Tree where
  | empty
  | file (name : Text) (content : Bytes) (rest : Tree)
  | directory (name : Text) (inside : Tree) (rest : Tree)
  deriving DecidableEq, Repr

/-- What a name stands for. -/
inductive Entry where
  | file (content : Bytes)
  | directory (inside : Tree)
  deriving DecidableEq, Repr

/-- A place in a tree: the names that lead there from the root. -/
abbrev Place := List Text

namespace Tree

/-- The entry with a name. -/
def lookup (name : Text) : Tree → Option Entry
  | empty => none
  | file n content rest => if n = name then some (.file content) else rest.lookup name
  | directory n inside rest => if n = name then some (.directory inside) else rest.lookup name

/-- Without the entries of a name. -/
def erase (name : Text) : Tree → Tree
  | empty => empty
  | file n content rest =>
    if n = name then rest.erase name else file n content (rest.erase name)
  | directory n inside rest =>
    if n = name then rest.erase name else directory n inside (rest.erase name)

/-- With an entry in front. -/
def cons (name : Text) : Entry → Tree → Tree
  | .file content, t => file name content t
  | .directory inside, t => directory name inside t

/-- With one entry of a name in place of any others. -/
def insert (name : Text) (e : Entry) (t : Tree) : Tree := cons name e (t.erase name)

/-- What is at a place. -/
def at? (t : Tree) : Place → Option Entry
  | [] => some (.directory t)
  | [name] => t.lookup name
  | name :: rest =>
    match t.lookup name with
    | some (.directory inside) => inside.at? rest
    | _ => none

/-- With an entry at a place whose parent is a directory; otherwise unchanged. -/
def put (e : Entry) (t : Tree) : Place → Tree
  | [] => t
  | [name] => t.insert name e
  | name :: rest =>
    match t.lookup name with
    | some (.directory inside) => t.insert name (.directory (inside.put e rest))
    | _ => t

/-- With nothing at a place. -/
def delete (t : Tree) : Place → Tree
  | [] => empty
  | [name] => t.erase name
  | name :: rest =>
    match t.lookup name with
    | some (.directory inside) => t.insert name (.directory (inside.delete rest))
    | _ => t

/-- The places of everything in the tree, below `above`; directories are marked. -/
def listing (above : Place) : Tree → List (Place × Bool)
  | empty => []
  | file name _ rest => (above ++ [name], false) :: rest.listing above
  | directory name inside rest =>
    (above ++ [name], true) :: inside.listing (above ++ [name]) ++ rest.listing above

/-! ### Names in one directory -/

@[simp] theorem lookup_cons_self (name : Text) (e : Entry) (t : Tree) :
    (cons name e t).lookup name = some e := by
  cases e <;> simp [cons, lookup]

theorem lookup_cons_of_ne {name other : Text} (h : other ≠ name) (e : Entry) (t : Tree) :
    (cons other e t).lookup name = t.lookup name := by
  cases e <;> simp [cons, lookup, h]

@[simp] theorem lookup_erase_self (name : Text) (t : Tree) : (t.erase name).lookup name = none := by
  induction t with
  | empty => rfl
  | file n content rest ih => by_cases h : n = name <;> simp [erase, lookup, h, ih]
  | directory n inside rest _ ih => by_cases h : n = name <;> simp [erase, lookup, h, ih]

theorem lookup_erase_of_ne {name other : Text} (h : other ≠ name) (t : Tree) :
    (t.erase other).lookup name = t.lookup name := by
  induction t with
  | empty => rfl
  | file n content rest ih =>
    by_cases hn : n = other
    · simp [erase, lookup, hn, ih, h]
    · simp [erase, lookup, hn, ih]
  | directory n inside rest _ ih =>
    by_cases hn : n = other
    · simp [erase, lookup, hn, ih, h]
    · simp [erase, lookup, hn, ih]

@[simp] theorem lookup_insert_self (name : Text) (e : Entry) (t : Tree) :
    (t.insert name e).lookup name = some e := lookup_cons_self ..

theorem lookup_insert_of_ne {name other : Text} (h : other ≠ name) (e : Entry) (t : Tree) :
    (t.insert other e).lookup name = t.lookup name := by
  rw [insert, lookup_cons_of_ne h, lookup_erase_of_ne h]

/-! ### Places -/

@[simp] theorem at?_nil (t : Tree) : t.at? [] = some (.directory t) := rfl

@[simp] theorem at?_singleton (t : Tree) (name : Text) : t.at? [name] = t.lookup name := rfl

theorem at?_cons (t : Tree) (name : Text) (rest : Place) :
    t.at? (name :: rest) =
      match t.lookup name with
      | some (.directory inside) => inside.at? rest
      | some (.file content) => if rest = [] then some (.file content) else none
      | none => none := by
  cases rest with
  | nil => simp only [at?]; cases h : t.lookup name with
    | none => rfl
    | some e => cases e <;> rfl
  | cons n r =>
    simp only [at?]
    cases h : t.lookup name with
    | none => rfl
    | some e => cases e <;> rfl

theorem at?_append_singleton {t : Tree} {p : Place} {inside : Tree}
    (h : t.at? p = some (.directory inside)) (name : Text) :
    t.at? (p ++ [name]) = inside.lookup name := by
  induction p generalizing t with
  | nil => simp only [at?_nil, Option.some.injEq, Entry.directory.injEq] at h; simp [h]
  | cons n r ih =>
    rw [List.cons_append, at?_cons]
    rw [at?_cons] at h
    cases hl : t.lookup n with
    | none => simp [hl] at h
    | some e =>
      cases e with
      | file c => simp [hl] at h
      | directory i => simp only [hl] at h ⊢; exact ih h

/-- Two places lie apart when neither leads to the other. -/
def Apart (p q : Place) : Prop := ¬ p <+: q ∧ ¬ q <+: p

theorem apart_cons_cons {n m : Text} {p q : Place} (h : Apart (n :: p) (m :: q)) :
    n ≠ m ∨ n = m ∧ Apart p q := by
  by_cases e : n = m
  · subst e
    exact .inr ⟨rfl, fun k => h.1 (List.prefix_cons_inj n |>.2 k),
      fun k => h.2 (List.prefix_cons_inj n |>.2 k)⟩
  · exact .inl e

/-! ### Filling and emptying places -/

/-- With an entry or with nothing at a place whose parent is a directory; otherwise unchanged.  What
`put` and `delete` have in common is proved of this. -/
def alter (x : Option Entry) (t : Tree) : Place → Tree
  | [] => t
  | [name] => x.elim (t.erase name) (t.insert name)
  | name :: rest =>
    match t.lookup name with
    | some (.directory inside) => t.insert name (.directory (inside.alter x rest))
    | _ => t

theorem alter_cons {t inside : Tree} {n : Text} {p : Place} (x : Option Entry) (hp : p ≠ [])
    (h : t.lookup n = some (.directory inside)) :
    t.alter x (n :: p) = t.insert n (.directory (inside.alter x p)) := by
  rw [alter, h]
  exact hp

theorem alter_cons_of_not_directory {t : Tree} {n : Text} {p : Place} (x : Option Entry)
    (hp : p ≠ []) (h : ¬ ∃ inside, t.lookup n = some (.directory inside)) :
    t.alter x (n :: p) = t := by
  rw [alter]
  · split
    · next inside hinside => exact absurd ⟨inside, hinside⟩ h
    · rfl
  · exact hp

theorem put_eq_alter (e : Entry) (t : Tree) (p : Place) : t.put e p = t.alter (some e) p := by
  fun_induction t.put e p with
  | case1 | case2 => rfl
  | case3 t name rest hrest inside hl ih => rw [alter_cons _ hrest hl, ih]
  | case4 t name rest hrest hl =>
    exact (alter_cons_of_not_directory _ hrest fun ⟨inside, h⟩ => hl inside h).symm

theorem delete_eq_alter {p : Place} (hp : p ≠ []) (t : Tree) : t.delete p = t.alter none p := by
  fun_induction t.delete p with
  | case1 => exact absurd rfl hp
  | case2 => rfl
  | case3 t name rest hrest inside hl ih => rw [alter_cons _ hrest hl, ih hrest]
  | case4 t name rest hrest hl =>
    exact (alter_cons_of_not_directory _ hrest fun ⟨inside, h⟩ => hl inside h).symm

theorem lookup_alter_of_ne {n m : Text} (h : n ≠ m) (x : Option Entry) (t : Tree) (p : Place) :
    (t.alter x (n :: p)).lookup m = t.lookup m := by
  by_cases hp : p = []
  · subst hp
    cases x with
    | none => exact lookup_erase_of_ne h t
    | some e => exact lookup_insert_of_ne h e t
  · by_cases hd : ∃ inside, t.lookup n = some (.directory inside)
    · obtain ⟨inside, hinside⟩ := hd
      rw [alter_cons x hp hinside, lookup_insert_of_ne h]
    · rw [alter_cons_of_not_directory x hp hd]

theorem at?_put_self {t : Tree} {p : Place} {inside : Tree} (e : Entry) (name : Text)
    (h : t.at? p = some (.directory inside)) :
    (t.put e (p ++ [name])).at? (p ++ [name]) = some e := by
  rw [put_eq_alter]
  induction p generalizing t with
  | nil => simp [alter]
  | cons n r ih =>
    rw [at?_cons] at h
    split at h
    · next i hl =>
      rw [List.cons_append, alter_cons _ (by simp) hl, at?_cons, lookup_insert_self]
      exact ih h
    · split at h <;> cases h
    · cases h

theorem at?_delete_self {t : Tree} {p : Place} (name : Text) :
    (t.delete (p ++ [name])).at? (p ++ [name]) = none := by
  rw [delete_eq_alter (by simp)]
  induction p generalizing t with
  | nil => simp [alter]
  | cons n r ih =>
    have hne : r ++ [name] ≠ [] := by simp
    rw [List.cons_append]
    by_cases hd : ∃ inside, t.lookup n = some (.directory inside)
    · obtain ⟨inside, hinside⟩ := hd
      rw [alter_cons _ hne hinside, at?_cons, lookup_insert_self]
      exact ih
    · rw [alter_cons_of_not_directory _ hne hd, at?_cons]
      split
      · next inside hinside => exact absurd ⟨inside, hinside⟩ hd
      · exact if_neg hne
      · rfl

theorem at?_alter_of_apart {t : Tree} {p q : Place} (x : Option Entry) (h : Apart p q) :
    (t.alter x p).at? q = t.at? q := by
  induction p generalizing t q with
  | nil => exact absurd List.nil_prefix h.1
  | cons n r ih =>
    cases q with
    | nil => exact absurd List.nil_prefix h.2
    | cons m s =>
      rcases apart_cons_cons h with hne | ⟨rfl, hrs⟩
      · rw [at?_cons, at?_cons, lookup_alter_of_ne hne]
      · have hr : r ≠ [] := by
          rintro rfl
          exact hrs.1 List.nil_prefix
        by_cases hd : ∃ inside, t.lookup n = some (.directory inside)
        · obtain ⟨inside, hinside⟩ := hd
          rw [alter_cons x hr hinside, at?_cons, at?_cons, lookup_insert_self, hinside]
          exact ih hrs
        · rw [alter_cons_of_not_directory x hr hd]

end Tree

end TriggerLatch.Files
