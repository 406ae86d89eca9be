/-
# SciCalc.Proofs.Evaluation.Bindings -- binding a name, and undoing it

A name bound for a while leaves nothing behind.  If it was not bound before it stands at
the end and is erased from there; if it was, with a value or with none, it has kept its
place and gets back what it had.  Either way the list of entries is the old one, order
included (`Context.unbind_bind`).

In between, the name alone has another value (`Context.binds_bind`).
-/
import SciCalc.Evaluation.Context

namespace SciCalc

set_option autoImplicit false

namespace Bindings

theorem ext_entries {b c : Bindings} (same : b.entries = c.entries) : b = c := by
  cases b
  cases c
  cases same
  rfl

theorem get?_eq_none_iff {b : Bindings} {name : String} : b.get? name = none ↔ name ∉ b.names := by
  rw [get?, List.lookup_eq_none_iff, names]
  constructor
  · intro apart inside
    obtain ⟨entry, member, rfl⟩ := List.mem_map.1 inside
    simpa using apart entry member
  · intro outside entry member
    have : name ≠ entry.1 := fun same => outside (same ▸ List.mem_map_of_mem member)
    simpa using this

/-! ## Lookup after a change -/

theorem lookup_entry_cons (key : String) (value : Option Float)
    (rest : List (String × Option Float)) (name : String) :
    ((key, value) :: rest).lookup name = if name = key then some value else rest.lookup name := by
  rw [List.lookup_cons]
  by_cases same : name = key
  · simp [same]
  · simp [same, beq_false_of_ne same]

theorem replace_cons (name key : String) (value old : Option Float)
    (rest : List (String × Option Float)) :
    replace name value ((key, old) :: rest) =
      (key, if key = name then value else old) :: replace name value rest := by
  by_cases same : key = name <;> simp [replace, same]

theorem lookup_replace_of_ne {name other : String} (apart : other ≠ name) (value : Option Float)
    (entries : List (String × Option Float)) :
    (replace name value entries).lookup other = entries.lookup other := by
  induction entries with
  | nil => rfl
  | cons entry rest ih =>
      obtain ⟨key, old⟩ := entry
      rw [replace_cons, lookup_entry_cons, lookup_entry_cons, ih]
      by_cases here : other = key
      · have : key ≠ name := here ▸ apart
        simp [this]
      · simp [here]

theorem lookup_replace_self {name : String} {value : Option Float}
    {entries : List (String × Option Float)} (bound : name ∈ entries.map Prod.fst) :
    (replace name value entries).lookup name = some value := by
  induction entries with
  | nil => cases bound
  | cons entry rest ih =>
      obtain ⟨key, old⟩ := entry
      rw [replace_cons, lookup_entry_cons]
      by_cases here : name = key
      · simp [here]
      · have later : name ∈ rest.map Prod.fst := by simpa [here] using bound
        rw [if_neg here, ih later]

theorem get?_set (b : Bindings) (name other : String) (value : Option Float) :
    (b.set name value).get? other = if other = name then some value else b.get? other := by
  rw [set]
  split
  · rename_i member
    by_cases same : other = name
    · rw [if_pos same, same]
      exact lookup_replace_self member
    · rw [if_neg same]
      exact lookup_replace_of_ne same value b.entries
  · rename_i new
    rw [get?, List.lookup_append, lookup_entry_cons, List.lookup_nil]
    by_cases same : other = name
    · have absent : b.entries.lookup name = none := get?_eq_none_iff.2 new
      simp [same, absent]
    · simp [same, get?]

/-! ## Undoing a change -/

theorem replace_of_not_mem {name : String} (value : Option Float)
    {entries : List (String × Option Float)} (absent : name ∉ entries.map Prod.fst) :
    replace name value entries = entries := by
  refine (List.map_congr_left fun entry member => ?_).trans (List.map_id entries)
  have : entry.1 ≠ name := fun same => absent (same ▸ List.mem_map_of_mem member)
  simp [this]

/-- A name that is bound once gets back what it had, in its place. -/
theorem replace_replace {name : String} (value : Option Float) {old : Option Float}
    {entries : List (String × Option Float)} (distinct : (entries.map Prod.fst).Nodup)
    (bound : entries.lookup name = some old) :
    replace name old (replace name value entries) = entries := by
  induction entries with
  | nil => cases bound
  | cons entry rest ih =>
      obtain ⟨key, current⟩ := entry
      obtain ⟨alone, restDistinct⟩ := List.nodup_cons.1 distinct
      rw [lookup_entry_cons] at bound
      rw [replace_cons, replace_cons]
      by_cases here : name = key
      · obtain rfl : current = old := by simpa [here] using bound
        subst here
        rw [replace_of_not_mem value alone, replace_of_not_mem current alone]
        simp
      · rw [if_neg here] at bound
        rw [ih restDistinct bound]
        simp [Ne.symm here]

theorem set_set {b : Bindings} {name : String} {old : Option Float} (value : Option Float)
    (bound : b.get? name = some old) : (b.set name value).set name old = b := by
  have member : name ∈ b.names := by
    refine Decidable.byContradiction fun outside => ?_
    rw [get?_eq_none_iff.2 outside] at bound
    cases bound
  have kept : name ∈ (b.set name value).names := by
    rw [set, dif_pos member, names, map_fst_replace]
    exact member
  apply ext_entries
  rw [set, dif_pos kept]
  simp only [set, dif_pos member]
  exact replace_replace value b.distinct bound

theorem erase_set {b : Bindings} {name : String} (value : Option Float)
    (unbound : b.get? name = none) : (b.set name value).erase name = b := by
  have outside := get?_eq_none_iff.1 unbound
  have others : b.entries.filter (·.1 ≠ name) = b.entries := by
    refine List.filter_eq_self.2 fun entry member => ?_
    have : entry.1 ≠ name := fun same => outside (same ▸ List.mem_map_of_mem member)
    simpa using this
  apply ext_entries
  rw [erase, set, dif_neg outside]
  simp only [List.filter_append, others]
  simp

/-! ## Copies -/

/-- Binding new names one after the other lists them in order. -/
theorem entries_foldl_set (entries : List (String × Option Float)) (b : Bindings)
    (new : ∀ entry ∈ entries, entry.1 ∉ b.names) (distinct : (entries.map Prod.fst).Nodup) :
    (entries.foldl (fun b entry => b.set entry.1 entry.2) b).entries = b.entries ++ entries := by
  induction entries generalizing b with
  | nil => simp
  | cons entry rest ih =>
      obtain ⟨alone, restDistinct⟩ := List.nodup_cons.1 distinct
      have outside := new entry List.mem_cons_self
      have first : (b.set entry.1 entry.2).entries = b.entries ++ [entry] := by
        rw [set, dif_neg outside]
      rw [List.foldl_cons, ih _ ?_ restDistinct, first, List.append_assoc, List.singleton_append]
      intro later member bound
      rcases mem_names_set bound with same | before
      · exact alone (same ▸ List.mem_map_of_mem member)
      · exact new later (List.mem_cons_of_mem entry member) before

theorem normalize_of_normal {b : Bindings} (normal : b.Normal) : b.normalize = b := by
  have own : b.entries.map (fun entry => (bindingName entry.1, entry.2)) = b.entries := by
    refine (List.map_congr_left fun entry member => ?_).trans (List.map_id b.entries)
    rw [normal entry.1 (List.mem_map_of_mem member), id_eq]
  apply ext_entries
  rw [normalize, own, ofList, entries_foldl_set b.entries empty (fun _ _ bound => by cases bound)
    b.distinct]
  rfl

end Bindings

namespace Context

theorem copy_eq (c : Context) : c.copy = c := by
  rw [copy, new]
  congr
  exact Bindings.normalize_of_normal c.normal

/-- **Undoing a bind restores the context**: names, values and order. -/
theorem unbind_bind (c : Context) (name : String) (value : Option Float) :
    (c.bind name value).1.unbind (c.bind name value).2 = c := by
  simp only [bind, unbind]
  split
  · rename_i old bound
    congr
    exact Bindings.set_set value bound
  · rename_i unbound
    congr
    exact Bindings.erase_set value unbound

/-- In `bound` one variable has a given value and everything else is as in `c`. -/
structure Binds (c : Context) (name : String) (x : Float) (bound : Context) : Prop where
  unit : bound.unit = c.unit
  own : ∀ other, bindingName other = bindingName name → bound.lookup other = .ok x
  others : ∀ other, bindingName other ≠ bindingName name → bound.lookup other = c.lookup other

theorem binds_bind (c : Context) (name : String) (x : Float) :
    c.Binds name x (c.bind name (some x)).1 where
  unit := rfl
  own other same := by rw [lookup, bind, Bindings.get?_set, if_pos same]
  others other apart := by rw [lookup, bind, Bindings.get?_set, if_neg apart, lookup]

end Context

end SciCalc
