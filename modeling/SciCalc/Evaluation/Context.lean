/-
# SciCalc.Evaluation.Context -- what an expression is evaluated against

A context is an angle unit and bindings of names to values.  Bindings are kept in the
order in which their names first came; a name bound again keeps its place.  A name
can also be bound to no value, which is another thing than not being bound, although
looking it up fails in both cases.

A name of one character stands for its upper-case form, all other names for
themselves (`bindingName`).  A context binds such forms only (`Bindings.Normal`), and
keeps to it through everything below.

`bind` gives a name a value for a while and returns what is needed to undo it: the
name and what was there before (`Block`).  A scope is a context with the blocks that
are still open, innermost first.
-/
import SciCalc.Evaluation.Angle
import SciCalc.Fault
import SciCalc.Text.Upper

namespace SciCalc

set_option autoImplicit false

/-- The angle unit of a name, or the fault that it is none. -/
def AngleUnit.named (text : String) : Except Fault AngleUnit :=
  match ofName? text with
  | some unit => .ok unit
  | none => .error (.unknownUnit text)

/-- The name under which a variable is bound. -/
def bindingName (name : String) : String :=
  match name.toList with
  | [c] => String.ofList (Text.upper c)
  | _ => name

/-- A name that variables are bound under stands for itself. -/
theorem bindingName_bindingName (name : String) :
    bindingName (bindingName name) = bindingName name := by
  rw [bindingName.eq_def name]
  split
  · rename_i c _
    rw [bindingName]
    split
    · rename_i d single
      rw [String.toList_ofList] at single
      rw [Text.upper_upper single, single]
    · rfl
  · rename_i several
    rw [bindingName]
    split
    · rename_i c one
      exact absurd one (several c)
    · rfl

/-- Names and their values, every name once. -/
structure Bindings where
  entries : List (String × Option Float)
  distinct : (entries.map Prod.fst).Nodup

namespace Bindings

def empty : Bindings := ⟨[], List.nodup_nil⟩

def names (b : Bindings) : List String := b.entries.map Prod.fst

def get? (b : Bindings) (name : String) : Option (Option Float) := b.entries.lookup name

/-- The entries with the value of one name replaced. -/
def replace (name : String) (value : Option Float) (entries : List (String × Option Float)) :
    List (String × Option Float) :=
  entries.map fun entry => if entry.1 = name then (name, value) else entry

theorem map_fst_replace (name : String) (value : Option Float)
    (entries : List (String × Option Float)) :
    (replace name value entries).map Prod.fst = entries.map Prod.fst := by
  induction entries with
  | nil => rfl
  | cons entry rest ih =>
      simp only [replace, List.map_cons, List.map_map] at ih ⊢
      rw [ih]
      by_cases same : entry.1 = name <;> simp [same]

/-- Bind a name: in its place if it is bound already, and at the end if not. -/
def set (b : Bindings) (name : String) (value : Option Float) : Bindings :=
  if member : name ∈ b.names then
    ⟨replace name value b.entries, by rw [map_fst_replace]; exact b.distinct⟩
  else
    ⟨b.entries ++ [(name, value)], by
      rw [List.map_append]
      refine List.nodup_append.2 ⟨b.distinct, by simp, ?_⟩
      intro x inside y last same
      simp only [List.map_cons, List.map_nil, List.mem_singleton] at last
      exact member (last ▸ same ▸ inside)⟩

def erase (b : Bindings) (name : String) : Bindings :=
  ⟨b.entries.filter (·.1 ≠ name),
    List.Nodup.sublist (List.Sublist.map _ List.filter_sublist) b.distinct⟩

def ofList (entries : List (String × Option Float)) : Bindings :=
  entries.foldl (fun b entry => b.set entry.1 entry.2) empty

/-- The same bindings under the names that variables are bound under. -/
def normalize (b : Bindings) : Bindings :=
  ofList (b.entries.map fun entry => (bindingName entry.1, entry.2))

/-- All names are names that variables are bound under. -/
def Normal (b : Bindings) : Prop := ∀ name ∈ b.names, bindingName name = name

theorem mem_names_set {b : Bindings} {name other : String} {value : Option Float}
    (bound : other ∈ (b.set name value).names) : other = name ∨ other ∈ b.names := by
  rw [set] at bound
  split at bound
  · exact .inr (by simpa only [names, map_fst_replace] using bound)
  · simp only [names, List.map_append, List.map_cons, List.map_nil, List.mem_append,
      List.mem_singleton] at bound
    exact bound.symm

theorem mem_names_erase {b : Bindings} {name other : String}
    (bound : other ∈ (b.erase name).names) : other ∈ b.names := by
  obtain ⟨entry, kept, rfl⟩ := List.mem_map.1 bound
  exact List.mem_map_of_mem (List.mem_filter.1 kept).1

theorem Normal.set {b : Bindings} (normal : b.Normal) {name : String}
    (own : bindingName name = name) (value : Option Float) : (b.set name value).Normal := by
  intro other bound
  rcases mem_names_set bound with rfl | before
  · exact own
  · exact normal other before

theorem Normal.erase {b : Bindings} (normal : b.Normal) (name : String) : (b.erase name).Normal :=
  fun other bound => normal other (mem_names_erase bound)

theorem Normal.foldl_set {b : Bindings} (normal : b.Normal)
    (entries : List (String × Option Float)) (own : ∀ entry ∈ entries, bindingName entry.1 = entry.1) :
    (entries.foldl (fun b entry => b.set entry.1 entry.2) b).Normal := by
  induction entries generalizing b with
  | nil => exact normal
  | cons entry rest ih =>
      exact ih (normal.set (own entry List.mem_cons_self) entry.2)
        fun later inside => own later (List.mem_cons_of_mem entry inside)

theorem normal_normalize (b : Bindings) : b.normalize.Normal := by
  refine Normal.foldl_set (fun _ bound => by cases bound) _ fun entry inside => ?_
  obtain ⟨source, -, rfl⟩ := List.mem_map.1 inside
  exact bindingName_bindingName source.1

end Bindings

structure Context where
  unit : AngleUnit
  bindings : Bindings
  normal : bindings.Normal

/-- What a bind block restores: what its name was bound to before, if it was. -/
structure Block where
  name : String
  before : Option (Option Float)
  normal : bindingName name = name

namespace Context

/-- A context with the given bindings, their names normalised. -/
def new (unit : AngleUnit) (bindings : Bindings) : Context :=
  ⟨unit, bindings.normalize, bindings.normal_normalize⟩

/-- A new context with the unit and the bindings of another. -/
def copy (c : Context) : Context := new c.unit c.bindings

def lookup (c : Context) (name : String) : Except Fault Float :=
  match c.bindings.get? (bindingName name) with
  | some (some value) => .ok value
  | _ => .error (.undefinedVariable name)

/-- Bind a variable for a while. -/
def bind (c : Context) (name : String) (value : Option Float) : Context × Block :=
  let own := bindingName_bindingName name
  let name := bindingName name
  (⟨c.unit, c.bindings.set name value, c.normal.set own value⟩, ⟨name, c.bindings.get? name, own⟩)

def unbind (c : Context) (block : Block) : Context :=
  match block.before with
  | some value => ⟨c.unit, c.bindings.set block.name value, c.normal.set block.normal value⟩
  | none => ⟨c.unit, c.bindings.erase block.name, c.normal.erase block.name⟩

def valueText : Option Float → String
  | some value => Number.shortest value
  | none => "None"

def describe (c : Context) : String :=
  let entries := c.bindings.entries.map fun entry =>
    Text.quoted entry.1 ++ ": " ++ valueText entry.2
  "Context(" ++ c.unit.name ++ ", \x7b" ++ ", ".intercalate entries ++ "\x7d)"

end Context

/-- A context with the bind blocks that are still open, innermost first. -/
structure Scope where
  context : Context
  blocks : List Block

namespace Scope

def ofContext (c : Context) : Scope := ⟨c, []⟩

def enter (s : Scope) (name : String) (value : Option Float) : Scope :=
  let (context, block) := s.context.bind name value
  ⟨context, block :: s.blocks⟩

/-- Leave the innermost open block, if there is one. -/
def leave (s : Scope) : Scope :=
  match s.blocks with
  | [] => s
  | block :: blocks => ⟨s.context.unbind block, blocks⟩

end Scope

end SciCalc
