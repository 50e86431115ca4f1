import StreamBridge.Settings.Path

/-! What is found in settings after a table has been merged into them: under each key, the table's
value merged into what was there. Placing a value at a path of names is merging the tables, each
with one entry, that the path goes through. -/

namespace StreamBridge.Proofs.SettingMerge
open Setting

/-- What settings have under a key. -/
def child (name : String) (setting : Setting) : Option Setting := setting.entries.lookup name

theorem lookup_entry {α : Type} (name key : String) (value : α) (rest : List (String × α)) :
    ((key, value) :: rest).lookup name = if name = key then some value else rest.lookup name := by
  by_cases same : name = key
  · simp [same]
  · simp [List.lookup_cons, same, beq_eq_false_iff_ne.mpr same]

theorem lookup_replace (key name : String) (value : Setting) (entries : List (String × Setting)) :
    (replace key value entries).lookup name =
      if name = key then some value else entries.lookup name := by
  induction entries with
  | nil => exact lookup_entry name key value []
  | cons entry rest ih =>
    obtain ⟨other, old⟩ := entry
    simp only [replace, beq_iff_eq]
    by_cases same : other = key
    · subst same
      simp only [if_pos, lookup_entry]
      split <;> rfl
    · simp only [if_neg same, lookup_entry, ih]
      by_cases found : name = other
      · subst found
        simp only [if_neg same, if_pos]
      · simp only [if_neg found]

section table
variable {key : String} {value target : Setting}

theorem putAll_cons (rest : List (String × Setting)) :
    putAll ((key, value) :: rest) target = putAll rest (putAll [(key, value)] target) := by
  simp only [putAll]

theorem putAll_single :
    putAll [(key, value)] target = .table
      (replace (Text.lowerCase key) (value.onto (child (Text.lowerCase key) target)) target.entries)
      target.tableOrigin := by
  simp only [putAll, child]

theorem child_single (lower : Text.lowerCase key = key) (name : String) :
    child name (putAll [(key, value)] target) =
      if name = key then some (value.onto (child key target)) else child name target := by
  rw [putAll_single, lower]
  exact lookup_replace key name _ _

/-- Merging a table sets what it has, and leaves everything else. -/
theorem child_putAll {entries : List (String × Setting)}
    (lower : ∀ entry ∈ entries, Text.lowerCase entry.1 = entry.1)
    (distinct : (entries.map (·.1)).Nodup) (target : Setting) (name : String) :
    child name (putAll entries target) =
      (entries.lookup name).elim (child name target) fun value =>
        some (value.onto (child name target)) := by
  induction entries generalizing target with
  | nil => simp only [putAll, List.lookup_nil, Option.elim_none]
  | cons entry rest ih =>
    obtain ⟨key, value⟩ := entry
    obtain ⟨fresh, distinct⟩ := List.nodup_cons.mp distinct
    have below : child name (putAll [(key, value)] target) =
        if name = key then some (value.onto (child key target)) else child name target :=
      child_single (lower _ (.head _)) name
    rw [putAll_cons, ih (fun entry member => lower entry (.tail _ member)) distinct, below,
      lookup_entry]
    by_cases same : name = key
    · subst same
      have absent : rest.lookup name = none := by
        refine List.lookup_eq_none_iff.mpr fun other member => ?_
        exact bne_iff_ne.mpr fun same => fresh (List.mem_map.mpr ⟨other, member, same.symm⟩)
      simp only [absent, if_pos, Option.elim_none, Option.elim_some]
    · simp only [if_neg same]

theorem table_putAll (entries before : List (String × Setting)) (origin : Option String) :
    ∃ after origin', putAll entries (.table before origin) = .table after origin' := by
  induction entries generalizing before origin with
  | nil => exact ⟨before, origin, by simp only [putAll]⟩
  | cons entry rest ih =>
    rw [putAll_cons, putAll_single]
    exact ih _ _

end table

/-- A value inside tables with one entry each. -/
def nested : List String → Setting → Setting
  | [], value => value
  | name :: rest, value => .table [(name, nested rest value)] none

/-- A path of names leads through tables that merge into what is there. -/
theorem place_names (value : Setting) (name : String) (rest : List String) (target : Setting) :
    place value ((name :: rest).map .child) target = putAll [(name, nested rest value)] target := by
  induction rest generalizing name target with
  | nil => simp [place, putAll, nested]
  | cons next rest ih =>
    have deeper (below : Option Setting) :
        place value ((next :: rest).map .child) (below.getD absent) =
          (Setting.table [(next, nested rest value)] none).onto below := by
      rw [ih]
      simp only [putAll, onto]
      cases below <;> rfl
    rw [putAll_single, nested, ← deeper]
    rfl

theorem addLayer_cons (key : String) (value : Setting) (rest : List (String × Setting))
    (settings : Setting) :
    addLayer ((key, value) :: rest) settings =
      addLayer rest (place value (SettingPath.ofKey key) settings) := rfl

/-- A layer of which no key goes deeper than one name is merged as a table. -/
theorem addLayer_table {layer : List (String × Setting)}
    (plain : ∀ entry ∈ layer, SettingPath.ofKey entry.1 = [.child entry.1]) (settings : Setting) :
    addLayer layer settings = putAll layer settings := by
  induction layer generalizing settings with
  | nil => simp only [addLayer, List.foldl_nil, putAll]
  | cons entry rest ih =>
    obtain ⟨key, value⟩ := entry
    rw [addLayer_cons, plain _ (.head _), putAll_cons,
      ih fun entry member => plain entry (.tail _ member)]
    exact congrArg (putAll rest) (place_names value key [] settings)

end StreamBridge.Proofs.SettingMerge
