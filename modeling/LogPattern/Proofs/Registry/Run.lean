import LogPattern.Proofs.Pattern.References
import LogPattern.Proofs.Pattern.Tokenize
import LogPattern.Proofs.Registry.Views
import LogPattern.Registry.PatternFile

/-!
# Runs of registrations

Whatever is registered, loaded or refused in a run, the registry stays a map from pattern
names to fragments in which the last registration of a name counts, and the names that it
holds are exactly those that a token can refer to.
-/

namespace LogPattern

theorem isPatternName_iff {name : String} :
    isPatternName name = true ↔
      name ≠ "" ∧ ∀ c ∈ name.toList, c.isAlphanum = true ∨ c = '_' := by
  simp [isPatternName, isNameChar]

namespace Registry

/-! ## Operations -/

inductive Operation where
  | register (name fragment : String)
  | registerAll (patterns : List NamedFragment)
  /-- Register the patterns that a text defines. -/
  | load (content source : String)

/-- The registry after an operation, also after one that is refused. -/
def perform (registry : Registry) : Operation → Registry
  | .register name fragment =>
      match registry.register name fragment with
      | .ok (_, registered) => registered
      | .error _ => registry
  | .registerAll patterns => (registry.registerAll patterns).registry
  | .load content source => (registry.registerAll (readPatterns content source).value).registry

def run (registry : Registry) (operations : List Operation) : Registry :=
  operations.foldl perform registry

namespace Operation

/-- The fragments that an operation registers, in order, if none is refused. -/
def patterns : Operation → List NamedFragment
  | register name fragment => [⟨name, fragment⟩]
  | registerAll patterns => patterns
  | load content source => (readPatterns content source).value

def accepted (operation : Operation) : List NamedFragment := acceptedOf operation.patterns

end Operation

def lastFragment? (registrations : List NamedFragment) (name : String) : Option String :=
  (registrations.reverse.find? (·.name = name)).map (·.fragment)

theorem putAll_append (registry : Registry) (front back : List NamedFragment) :
    registry.putAll (front ++ back) = (registry.putAll front).putAll back :=
  List.foldl_append

theorem lookup?_putAll (registry : Registry) (patterns : List NamedFragment) (name : String) :
    (registry.putAll patterns).lookup? name =
      (lastFragment? patterns name).or (registry.lookup? name) := by
  have hfold := lookup?_foldl_put (patterns.map fun pattern => (pattern.name, pattern.fragment))
    registry name
  rw [List.foldl_map, ← List.map_reverse, List.find?_map, Option.map_map] at hfold
  exact hfold

/-- An operation enters the registrations that succeed. -/
theorem perform_eq (registry : Registry) (operation : Operation) :
    registry.perform operation = registry.putAll operation.accepted := by
  cases operation with
  | register name fragment =>
      rw [perform]
      cases hname : isPatternName name with
      | true =>
          rw [register_of_isPatternName hname]
          simp [Operation.accepted, Operation.patterns, acceptedOf, putAll, hname]
      | false =>
          rw [register_of_not hname]
          simp [Operation.accepted, Operation.patterns, acceptedOf, putAll, hname]
  | registerAll patterns => exact (registry.registerAll_eq patterns).1
  | load content source => exact (registry.registerAll_eq (readPatterns content source).value).1

theorem run_eq (registry : Registry) (operations : List Operation) :
    registry.run operations = registry.putAll (operations.flatMap Operation.accepted) := by
  induction operations generalizing registry with
  | nil => rfl
  | cons operation operations ih =>
      rw [List.flatMap_cons, putAll_append, ← perform_eq, ← ih]
      rfl

theorem run_register {patterns : List NamedFragment} (registry : Registry)
    (hnames : ∀ pattern ∈ patterns, isPatternName pattern.name = true) :
    registry.run (patterns.map fun pattern => .register pattern.name pattern.fragment) =
      registry.putAll patterns := by
  induction patterns generalizing registry with
  | nil => rfl
  | cons pattern patterns ih =>
      have hname := hnames pattern List.mem_cons_self
      have hrest := ih (registry.put pattern.name pattern.fragment) fun other hother =>
        hnames other (List.mem_cons_of_mem _ hother)
      have hfirst : registry.perform (.register pattern.name pattern.fragment) =
          registry.put pattern.name pattern.fragment := by
        rw [perform, register_of_isPatternName hname]
      change (registry.perform (.register pattern.name pattern.fragment)).run _ = _
      rw [hfirst, hrest]
      rfl

/-- The fragments before the first refused one are registered, and the refusal names that one. -/
theorem exists_registered (registry : Registry) (patterns : List NamedFragment) :
    ∃ front back, patterns = front ++ back ∧
      (registry.registerAll patterns).registry =
        registry.run (front.map fun pattern => .register pattern.name pattern.fragment) ∧
      (∀ pattern ∈ front, isPatternName pattern.name = true) ∧
      (∀ pattern ∈ back.head?, isPatternName pattern.name = false) ∧
      (registry.registerAll patterns).refusal =
        back.head?.map fun pattern => .invalidPatternName pattern.name nameRule := by
  obtain ⟨hregistry, hrefusal⟩ := registry.registerAll_eq patterns
  have hfront : ∀ pattern ∈ acceptedOf patterns, isPatternName pattern.name = true :=
    fun _ hpattern => isPatternName_of_mem_acceptedOf hpattern
  refine ⟨acceptedOf patterns, patterns.dropWhile fun pattern => isPatternName pattern.name,
    List.takeWhile_append_dropWhile.symm, ?_, hfront, fun pattern hpattern => ?_, hrefusal⟩
  · rw [hregistry, run_register registry hfront]
  · have hnot := List.head?_dropWhile_not (fun pattern => isPatternName pattern.name) patterns
    rw [hpattern] at hnot
    exact hnot

/-! ## Names -/

def WellNamed (registry : Registry) : Prop :=
  ∀ name, registry.contains name = true → isPatternName name = true

namespace WellNamed

theorem empty : Registry.empty.WellNamed := by
  intro name h
  simp [contains_eq] at h

theorem builtins : Registry.builtins.WellNamed := by
  have hall : ∀ entry ∈ Builtin.patterns, isPatternName entry.1 = true := by decide +kernel
  intro name h
  rw [contains_eq, Option.isSome_iff_exists] at h
  obtain ⟨fragment, hfragment⟩ := h
  exact hall _ (lookup?_builtins_eq_some.1 hfragment)

variable {registry : Registry}

theorem put {name : String} (h : registry.WellNamed) (hname : isPatternName name = true)
    (fragment : String) : (registry.put name fragment).WellNamed := by
  intro other hother
  rw [contains_eq, lookup?_put] at hother
  split at hother
  · next hsame => exact hsame ▸ hname
  · exact h other (by rw [contains_eq]; exact hother)

theorem putAll {patterns : List NamedFragment} (h : registry.WellNamed)
    (hnames : ∀ pattern ∈ patterns, isPatternName pattern.name = true) :
    (registry.putAll patterns).WellNamed := by
  induction patterns generalizing registry with
  | nil => exact h
  | cons pattern patterns ih =>
      exact ih (h.put (hnames pattern List.mem_cons_self) pattern.fragment) fun other hother =>
        hnames other (List.mem_cons_of_mem _ hother)

theorem perform (h : registry.WellNamed) (operation : Operation) :
    (registry.perform operation).WellNamed := by
  rw [perform_eq]
  exact h.putAll fun _ hpattern => isPatternName_of_mem_acceptedOf hpattern

theorem run (h : registry.WellNamed) (operations : List Operation) :
    (registry.run operations).WellNamed := by
  induction operations generalizing registry with
  | nil => exact h
  | cons operation operations ih => exact ih (h.perform operation)

end WellNamed

/-! ## Tokens -/

open Expansion in
/-- Behind the opener of the token, the segments of the fragment are expanded. -/
def Resolves (lookup : Lookup) (token : Token) (fragment : String) : Prop :=
  ∀ (maxDepth position depth : Nat) (chain : List String) (before : Expansion),
    token.name ∉ chain →
      expandToken lookup maxDepth position (depth + 1) chain token before =
        ((segments fragment).foldlM
          (expandSegment lookup maxDepth position depth (token.name :: chain))
          (before.openToken token)).map (·.append [')'])

/-- A token with a name of the registry stands for the fragment of that name. -/
theorem WellNamed.resolves {registry : Registry} (h : registry.WellNamed) {token : Token}
    {fragment : String} (hfragment : registry.lookup? token.name = some fragment) :
    Resolves registry.lookup? token fragment := by
  have hname : isPatternName token.name = true := by
    refine h token.name ?_
    rw [contains_eq, hfragment]
    rfl
  have hknown : IsKnown registry.lookup? token.name := ⟨hname, by rw [hfragment]; rfl⟩
  intro maxDepth position depth chain before hfresh
  exact Expansion.expandToken_succ hknown hfragment hfresh

/-! ## Whole runs -/

def start (withBuiltins : Bool) : Registry := if withBuiltins then builtins else empty

theorem wellNamed_start (withBuiltins : Bool) : (start withBuiltins).WellNamed := by
  cases withBuiltins with
  | false => exact .empty
  | true => exact .builtins

theorem lookup?_start_eq_some {withBuiltins : Bool} {name fragment : String} :
    (start withBuiltins).lookup? name = some fragment ↔
      withBuiltins = true ∧ (name, fragment) ∈ Builtin.patterns := by
  cases withBuiltins with
  | false => simp [start]
  | true => simp [start, lookup?_builtins_eq_some]

/-- The registry is a map in which the last of all registrations that succeeded counts. -/
structure IsLastWrite (withBuiltins : Bool) (operations : List Operation) (registry : Registry) :
    Prop where
  named : ∀ name, registry.contains name = true →
    name ≠ "" ∧ ∀ c ∈ name.toList, c.isAlphanum = true ∨ c = '_'
  /-- Without a registration in the run, a name stands for its fragment in the standard library. -/
  lookup : ∀ name fragment, registry.lookup? name = some fragment ↔
    lastFragment? (operations.flatMap Operation.accepted) name = some fragment ∨
      lastFragment? (operations.flatMap Operation.accepted) name = none ∧
        withBuiltins = true ∧ (name, fragment) ∈ Builtin.patterns
  /-- A registration answers the fragment that it takes the place of. -/
  register : ∀ name fragment, isPatternName name = true →
    registry.register name fragment =
        .ok (registry.lookup? name, registry.perform (.register name fragment)) ∧
      ∀ other, (registry.perform (.register name fragment)).lookup? other =
        if name = other then some fragment else registry.lookup? other
  refused : ∀ name fragment, isPatternName name = false →
    registry.register name fragment = .error (.invalidPatternName name nameRule) ∧
      registry.perform (.register name fragment) = registry
  /-- Of many registrations, those before the first that is refused have been made. -/
  registerAll : ∀ patterns : List NamedFragment, ∃ front back, patterns = front ++ back ∧
    (registry.registerAll patterns).registry =
      registry.run (front.map fun pattern => .register pattern.name pattern.fragment) ∧
    (∀ pattern ∈ front, isPatternName pattern.name = true) ∧
    (∀ pattern ∈ back.head?, isPatternName pattern.name = false) ∧
    (registry.registerAll patterns).refusal =
      back.head?.map fun pattern => .invalidPatternName pattern.name nameRule
  contains : ∀ name, registry.contains name = (registry.lookup? name).isSome
  names : ∀ name, name ∈ registry.names ↔ registry.contains name = true
  sorted : registry.names.Pairwise (· < ·)
  size : registry.names.length = registry.size
  /-- A name of the registry can be referred to, and stands for its fragment. -/
  resolves : ∀ name fragment, registry.lookup? name = some fragment →
    segments (reference name) = [.token (.ofName 0 name)] ∧
      ∀ token : Token, token.name = name → Resolves registry.lookup? token fragment
  unknown : ∀ token : Token, registry.contains token.name = false →
    ∀ (maxDepth position depth : Nat) (chain : List String) (before : Expansion),
      Expansion.expandToken registry.lookup? maxDepth position depth chain token before =
        .error (.unknownReference token.name position)

/-- After any run of operations, the last successful registration of every name counts. -/
theorem run_isLastWrite (withBuiltins : Bool) (operations : List Operation) :
    ((start withBuiltins).run operations).IsLastWrite withBuiltins operations := by
  have hnamed := (wellNamed_start withBuiltins).run operations
  generalize hregistry : (start withBuiltins).run operations = registry at hnamed ⊢
  constructor
  case named => exact fun name h => isPatternName_iff.1 (hnamed name h)
  case lookup =>
    intro name fragment
    rw [← hregistry, run_eq, lookup?_putAll, Option.or_eq_some_iff, lookup?_start_eq_some]
  case register =>
    intro name fragment hname
    have hput : registry.perform (.register name fragment) = registry.put name fragment := by
      rw [perform, register_of_isPatternName hname]
    rw [hput]
    exact ⟨register_of_isPatternName hname registry fragment, lookup?_put registry name fragment⟩
  case refused =>
    intro name fragment hname
    refine ⟨register_of_not hname registry fragment, ?_⟩
    rw [perform, register_of_not hname]
  case registerAll => exact registry.exists_registered
  case contains => exact registry.contains_eq
  case names => exact fun _ => mem_names
  case sorted => exact registry.names_sorted
  case size => exact registry.length_names
  case resolves =>
    intro name fragment hfragment
    have hname : isPatternName name = true := hnamed name (by rw [contains_eq, hfragment]; rfl)
    exact ⟨segments_reference hname, fun token htoken => hnamed.resolves (htoken ▸ hfragment)⟩
  case unknown =>
    intro token hcontains maxDepth position depth chain before
    refine Expansion.expandToken_of_unknown fun hknown => ?_
    rw [contains_eq, hknown.2] at hcontains
    cases hcontains

/-- A refused name leaves what has been registered before it. -/
example :
    let registry := (start false).run [.register "ID" "a", .register "" "b",
      .registerAll [⟨"ID", "c"⟩, ⟨"X Y", "d"⟩, ⟨"ID", "e"⟩], .load "# names\nNUM [0-9]+\nA:B x\n" "f"]
    registry.lookup? "ID" = some "c" ∧ registry.names = ["ID", "NUM"] := by
  decide +kernel

end Registry

end LogPattern
