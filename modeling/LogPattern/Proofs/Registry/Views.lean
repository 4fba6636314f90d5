import LogPattern.Proofs.KeyedList
import LogPattern.Registry.Basic
import Mathlib.Data.List.TakeWhile

/-!
# Views of a registry

What a registry answers to a lookup determines everything else that it answers: which
names it contains, their list in order, and their number.
-/

namespace LogPattern

namespace Registry

/-! ## Lookups -/

@[simp] theorem lookup?_empty (name : String) : empty.lookup? name = none :=
  Std.TreeMap.getElem?_emptyc

theorem lookup?_put (registry : Registry) (name fragment other : String) :
    (registry.put name fragment).lookup? other =
      if name = other then some fragment else registry.lookup? other := by
  simp [put, lookup?, Std.TreeMap.getElem?_insert]

theorem lookup?_foldl_put (entries : List (String × String)) (registry : Registry)
    (name : String) :
    (entries.foldl (fun registry entry => registry.put entry.1 entry.2) registry).lookup? name =
      ((entries.reverse.find? (·.1 = name)).map (·.2)).or (registry.lookup? name) := by
  induction entries generalizing registry with
  | nil => rfl
  | cons entry entries ih =>
      rw [List.foldl_cons, ih, lookup?_put, List.reverse_cons, List.find?_append]
      by_cases hname : entry.1 = name <;>
        cases List.find? (fun entry => decide (entry.1 = name)) entries.reverse <;> simp [hname]

theorem builtins_nodup : (Builtin.patterns.map (·.1)).Nodup := by decide +kernel

/-- No name of the standard library is given twice, so each has the one fragment listed with it. -/
theorem lookup?_builtins_eq_some {name fragment : String} :
    builtins.lookup? name = some fragment ↔ (name, fragment) ∈ Builtin.patterns := by
  rw [builtins, lookup?_foldl_put, lookup?_empty, Option.or_none,
    find?_key_perm (List.reverse_perm _) builtins_nodup, Option.map_eq_some_iff]
  simp only [find?_key_eq_some_iff builtins_nodup]
  constructor
  · rintro ⟨entry, ⟨hmem, rfl⟩, rfl⟩
    exact hmem
  · exact fun hmem => ⟨(name, fragment), ⟨hmem, rfl⟩, rfl⟩

theorem lookup?_builtins (name : String) :
    builtins.lookup? name = Builtin.patterns.lookup name := by
  rw [builtins, lookup?_foldl_put, lookup?_empty, Option.or_none,
    find?_key_perm (List.reverse_perm _) builtins_nodup, lookup_eq_find?]

/-! ## The other views -/

theorem contains_eq (registry : Registry) (name : String) :
    registry.contains name = (registry.lookup? name).isSome :=
  Std.TreeMap.contains_eq_isSome_getElem?

theorem mem_names {registry : Registry} {name : String} :
    name ∈ registry.names ↔ registry.contains name = true :=
  Std.TreeMap.mem_keys

theorem length_names (registry : Registry) : registry.names.length = registry.size :=
  Std.TreeMap.length_keys

theorem names_sorted (registry : Registry) : registry.names.Pairwise (· < ·) := by
  have hsorted : registry.names.Pairwise fun a b => compare a b = .lt := Std.TreeMap.ordered_keys
  exact hsorted.imp fun hlt => compareOfLessAndEq_eq_lt.1 hlt

/-! ## Registering -/

/-- Enter fragments one after the other, whatever their names are. -/
def putAll (registry : Registry) (patterns : List NamedFragment) : Registry :=
  patterns.foldl (fun registry pattern => registry.put pattern.name pattern.fragment) registry

def acceptedOf (patterns : List NamedFragment) : List NamedFragment :=
  patterns.takeWhile fun pattern => isPatternName pattern.name

def refusedOf? (patterns : List NamedFragment) : Option NamedFragment :=
  (patterns.dropWhile fun pattern => isPatternName pattern.name).head?

theorem isPatternName_of_mem_acceptedOf {patterns : List NamedFragment} {pattern : NamedFragment}
    (h : pattern ∈ acceptedOf patterns) : isPatternName pattern.name = true := by
  have hall : (acceptedOf patterns).all (fun pattern => isPatternName pattern.name) = true :=
    List.all_takeWhile
  exact List.all_eq_true.1 hall pattern h

theorem register_of_isPatternName {name : String} (h : isPatternName name = true)
    (registry : Registry) (fragment : String) :
    registry.register name fragment = .ok (registry.lookup? name, registry.put name fragment) := by
  rw [register, if_pos h]

theorem register_of_not {name : String} (h : isPatternName name = false) (registry : Registry)
    (fragment : String) :
    registry.register name fragment = .error (.invalidPatternName name nameRule) := by
  rw [register, h]
  rfl

theorem registerFrom_eq (overwritten : List String) (registry : Registry)
    (patterns : List NamedFragment) :
    (registerFrom overwritten registry patterns).registry =
        registry.putAll (acceptedOf patterns) ∧
      (registerFrom overwritten registry patterns).refusal =
        (refusedOf? patterns).map fun pattern => .invalidPatternName pattern.name nameRule := by
  induction patterns generalizing overwritten registry with
  | nil => exact ⟨rfl, rfl⟩
  | cons pattern patterns ih =>
      rw [registerFrom]
      cases hname : isPatternName pattern.name with
      | false =>
          rw [register_of_not hname]
          simp [acceptedOf, refusedOf?, putAll, hname]
      | true =>
          rw [register_of_isPatternName hname]
          have haccepted : acceptedOf (pattern :: patterns) = pattern :: acceptedOf patterns := by
            simp [acceptedOf, hname]
          have hrefused : refusedOf? (pattern :: patterns) = refusedOf? patterns := by
            simp [refusedOf?, hname]
          rw [haccepted, hrefused]
          cases registry.lookup? pattern.name with
          | none => exact ih overwritten (registry.put pattern.name pattern.fragment)
          | some previous =>
              exact ih (previous :: overwritten) (registry.put pattern.name pattern.fragment)

theorem registerAll_eq (registry : Registry) (patterns : List NamedFragment) :
    (registry.registerAll patterns).registry = registry.putAll (acceptedOf patterns) ∧
      (registry.registerAll patterns).refusal =
        (refusedOf? patterns).map fun pattern => .invalidPatternName pattern.name nameRule :=
  registerFrom_eq [] registry patterns

theorem refusal_registerAll_eq_none_iff (registry : Registry) {patterns : List NamedFragment} :
    (registry.registerAll patterns).refusal = none ↔
      ∀ pattern ∈ patterns, isPatternName pattern.name = true := by
  rw [(registry.registerAll_eq patterns).2, refusedOf?, Option.map_eq_none_iff,
    List.head?_eq_none_iff, List.dropWhile_eq_nil_iff]

end Registry

end LogPattern
