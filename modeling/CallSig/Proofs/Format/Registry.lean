import Mathlib
import CallSig.Format.Registry
import CallSig.Proofs.Octet.Order

/-!
# What a registry finds and lists

Formatters are kept under their names as they are, and looked up in lower case. So
two texts play a part in a look-up: the one that is asked for, and the one that
formatters are found under.

A registry is the formatters that were registered, in their order:
`Registry.Serves` says how it answers by these alone, and `serves_registerAll` that
every registry does that is built by registering. The one formatter that answers is
the last of its name (`get?_registerAll`), and the listing has every name once, in
the order of its octets (`pairwise_names`).
-/

namespace CallSig

open CallSig.Octet

namespace Registry

/-- The registry after these formatters are registered, one after another. -/
def registerAll (registry : Registry) (formatters : List Formatter) : Registry :=
  formatters.foldl register registry

theorem registerAll_concat (registry : Registry) (formatters : List Formatter)
    (last : Formatter) :
    registry.registerAll (formatters ++ [last]) = (registry.registerAll formatters).register last :=
  List.foldl_concat ..

theorem registerAll_append (registry : Registry) (formatters others : List Formatter) :
    registry.registerAll (formatters ++ others) =
      (registry.registerAll formatters).registerAll others :=
  List.foldl_append

/-- Whether no letter of the text is an ASCII capital. -/
def Lower (name : String) : Prop :=
  ∀ c ∈ name.toList, c.isUpper = false

/-- Whether the texts differ at most in the case of ASCII letters. -/
def SameFolded (name other : String) : Prop :=
  List.Forall₂ (fun c d => c.beqCaseInsensitiveAsciiOnly d) name.toList other.toList

/-- How a registry answers in which these formatters were registered, in this
order. -/
structure Serves (registry : Registry) (formatters : List Formatter) : Prop where
  /-- Of the formatters whose name is the query in lower case the last one is found. -/
  get : ∀ query, registry.get? query =
    (formatters.filter (·.name = foldName query)).getLast?
  has : ∀ query, registry.has query = (registry.get? query).isSome
  /-- Reports are written by the formatter that is found. -/
  write : ∀ query formatter reports, registry.get? query = some formatter →
    registry.serialize reports query = formatter.write reports
  /-- When none is found, the error names the query as it was given. -/
  notFound : ∀ query reports, registry.get? query = none →
    registry.serialize reports query = .error (.notFound query)
  /-- The case of ASCII letters in a query shows in nothing but the error. -/
  folded : ∀ query other, SameFolded query other → registry.get? query = registry.get? other ∧
    ∀ reports, registry.serialize reports query = registry.serialize reports other ∨
      registry.serialize reports query = .error (.notFound query) ∧
        registry.serialize reports other = .error (.notFound other)
  /-- Names are listed in the strict order of their octets. -/
  sorted : registry.names.Pairwise fun one other => octetsOf one < octetsOf other
  /-- The listed names are those of the formatters. -/
  listed : ∀ name, name ∈ registry.names ↔ ∃ formatter ∈ formatters, formatter.name = name
  /-- A listed name without capitals is found. -/
  found : ∀ name ∈ registry.names, Lower name →
    ∃ formatter, registry.get? name = some formatter ∧ formatter.name = name
  /-- A formatter with a capital in its name is never found. -/
  lower : ∀ query formatter, registry.get? query = some formatter → Lower formatter.name

variable {registry : Registry} {formatter : Formatter} {name query other : String}

/-! ## Names in lower case -/

theorem foldName_of_lower (lower : Lower name) : foldName name = name := by
  rw [← String.toList_inj, foldName, String.toList_map]
  have same : ∀ c ∈ name.toList, c.toLower = id c := fun c inside =>
    Char.toLower_eq_of_not_isUpper (by simp [lower c inside])
  rw [List.map_congr_left same, List.map_id]

theorem lower_foldName (name : String) : Lower (foldName name) := by
  intro c inside
  rw [foldName, String.toList_map] at inside
  obtain ⟨d, -, rfl⟩ := List.mem_map.mp inside
  exact Char.isUpper_toLower_eq_false d

/-- Names that differ in case alone are folded into the same name. -/
theorem foldName_congr (same : SameFolded name other) : foldName name = foldName other := by
  rw [← String.toList_inj, foldName, foldName, String.toList_map, String.toList_map]
  rw [← List.forall₂_eq_eq_eq, List.forall₂_map_left_iff, List.forall₂_map_right_iff]
  exact same.imp fun c d equal => beq_iff_eq.mp equal

/-! ## Registering one formatter -/

/-- A formatter is found under its name in lower case; other names find what they did. -/
theorem get?_register (registry : Registry) (formatter : Formatter) (query : String) :
    (registry.register formatter).get? query =
      if formatter.name = foldName query then some formatter else registry.get? query := by
  rw [get?, register, List.find?_cons]
  split
  · next found => rw [if_pos (beq_iff_eq.mp found)]
  · next other =>
    have different : formatter.name ≠ foldName query := by simpa using other
    rw [if_neg different, List.find?_filter, get?]
    congr 1
    funext kept
    by_cases same : kept.name = foldName query
    · simp [same, different.symm]
    · simp [same]

theorem mem_names : name ∈ registry.names ↔ ∃ formatter ∈ registry.formatters,
    formatter.name = name := by
  rw [names, (List.mergeSort_perm _ _).mem_iff, List.mem_map]

theorem mem_names_register :
    name ∈ (registry.register formatter).names ↔ formatter.name = name ∨ name ∈ registry.names := by
  simp only [mem_names, register, List.mem_cons, exists_eq_or_imp, List.mem_filter, bne_iff_ne]
  by_cases same : formatter.name = name
  · simp [same]
  · simp only [same, false_or]
    refine exists_congr fun kept => ⟨fun found => ⟨found.1.1, found.2⟩, fun found => ?_⟩
    exact ⟨⟨found.1, fun equal => same (equal.symm.trans found.2)⟩, found.2⟩

/-! ## A registry that is built by registering -/

/-- Of the formatters with the name of a query the last one registered is found. -/
theorem get?_registerAll (formatters : List Formatter) (query : String) :
    (empty.registerAll formatters).get? query =
      (formatters.filter (·.name = foldName query)).getLast? := by
  induction formatters using List.reverseRecOn with
  | nil => rfl
  | append_singleton formatters last ih =>
    rw [registerAll_concat, get?_register, List.filter_append, List.filter_singleton]
    by_cases same : last.name = foldName query
    · simp [same]
    · simp [same, ih]

/-- The names are those of all formatters that were registered. -/
theorem mem_names_registerAll (formatters : List Formatter) :
    name ∈ (empty.registerAll formatters).names ↔
      ∃ formatter ∈ formatters, formatter.name = name := by
  induction formatters using List.reverseRecOn with
  | nil => simp [mem_names, registerAll, empty]
  | append_singleton formatters last ih =>
    rw [registerAll_concat, mem_names_register, ih]
    simp only [List.mem_append, List.mem_singleton, or_and_right, exists_or, exists_eq_left]
    exact or_comm

/-- The names of any registry are in strict order: none is there twice. -/
theorem pairwise_names (registry : Registry) : registry.names.Pairwise (· < ·) := by
  have sorted : registry.names.Pairwise (· ≤ ·) := by
    have transitive : ∀ one two three : String, decide (one ≤ two) = true →
        decide (two ≤ three) = true → decide (one ≤ three) = true := by
      intro one two three first second
      simp only [decide_eq_true_eq] at first second ⊢
      exact le_trans first second
    have total : ∀ one other : String, (decide (one ≤ other) || decide (other ≤ one)) = true :=
      fun one other => by simpa using le_total one other
    exact (List.pairwise_mergeSort transitive total _).imp of_decide_eq_true
  have nodup : registry.names.Nodup :=
    (List.mergeSort_perm _ _).nodup_iff.mpr registry.names_nodup
  exact (sorted.and nodup).imp fun both => lt_of_le_of_ne both.1 both.2

/-- The query in lower case is the name that is found. -/
theorem name_of_get? (found : registry.get? query = some formatter) :
    formatter.name = foldName query := by
  rw [get?] at found
  have same := List.find?_some found
  exact beq_iff_eq.mp same

/-- Under a name of the list that is in lower case its formatter is found. -/
theorem exists_of_mem_names (listed : name ∈ registry.names) (lower : Lower name) :
    ∃ formatter, registry.get? name = some formatter ∧ formatter.name = name := by
  obtain ⟨kept, inside, same⟩ := mem_names.mp listed
  have folded := foldName_of_lower lower
  have some : (registry.get? name).isSome := by
    rw [get?, List.find?_isSome]
    exact ⟨kept, inside, by rw [same, folded, beq_self_eq_true]⟩
  obtain ⟨formatter, found⟩ := Option.isSome_iff_exists.mp some
  exact ⟨formatter, found, (name_of_get? found).trans folded⟩

theorem serialize_of_get? (found : registry.get? query = some formatter)
    (reports : List Report) : registry.serialize reports query = formatter.write reports := by
  rw [serialize, found]

/-- Without a formatter the error names the query as it was given. -/
theorem serialize_of_get?_eq_none (missing : registry.get? query = none)
    (reports : List Report) : registry.serialize reports query = .error (.notFound query) := by
  rw [serialize, missing]

theorem get?_congr (same : SameFolded query other) : registry.get? query = registry.get? other := by
  rw [get?, get?, foldName_congr same]

/-- Queries that differ in case alone write the same, or each stands in its own error. -/
theorem serialize_congr (same : SameFolded query other) (reports : List Report) :
    registry.serialize reports query = registry.serialize reports other ∨
      registry.serialize reports query = .error (.notFound query) ∧
        registry.serialize reports other = .error (.notFound other) := by
  have found : registry.get? query = registry.get? other := get?_congr same
  cases answer : registry.get? other with
  | some formatter =>
    rw [answer] at found
    exact .inl ((serialize_of_get? found reports).trans (serialize_of_get? answer reports).symm)
  | none =>
    rw [answer] at found
    exact .inr ⟨serialize_of_get?_eq_none found reports, serialize_of_get?_eq_none answer reports⟩

/-- An empty registry in which formatters are registered answers by the last one of each
name. -/
theorem serves_registerAll_empty (formatters : List Formatter) :
    (empty.registerAll formatters).Serves formatters where
  get := get?_registerAll formatters
  has _ := rfl
  write _ _ reports found := serialize_of_get? found reports
  notFound _ reports missing := serialize_of_get?_eq_none missing reports
  folded _ _ same := ⟨get?_congr same, serialize_congr same⟩
  sorted := (pairwise_names _).imp octetsOf_lt
  listed _ := mem_names_registerAll formatters
  found _ listed lower := exists_of_mem_names listed lower
  lower query formatter found := by
    rw [name_of_get? found]
    exact lower_foldName query

/-- However formatters are registered, in an empty registry or in the one of the
built-in formatters, the registry answers by the last one of each name. -/
theorem serves_registerAll (formatters : List Formatter) :
    (empty.registerAll formatters).Serves formatters ∧
      (withDefaults.registerAll formatters).Serves (Formatter.builtIn ++ formatters) := by
  have built := serves_registerAll_empty (Formatter.builtIn ++ formatters)
  rw [registerAll_append] at built
  exact ⟨serves_registerAll_empty formatters, built⟩

/-- A custom formatter in the place of a built-in one, and one that has a capital in
its name. -/
example :
    let custom := Formatter.total "text" "mine" fun _ => "mine"
    let hidden := Formatter.total "Über-X" "hidden" fun _ => "hidden"
    let registry := withDefaults.registerAll [custom, hidden]
    (registry.get? "TEXT").map (·.description) = some "mine" ∧ registry.has "yaml" = true ∧
      registry.has "Über-X" = false ∧ registry.formatters.length = 5 := by
  decide +kernel

end Registry

end CallSig
