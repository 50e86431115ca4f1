import Mathlib.Data.Sigma.Basic
import StreamBridge.Settings.Load
import StreamBridge.Proofs.SettingFields
import StreamBridge.Proofs.SettingMerge

/-! Layers of settings override each other field by field. A file is a table of sections, each a
table of fields; a variable counts as a file with one field. -/

namespace StreamBridge.Proofs.SettingLayers
open Setting SettingFields SettingMerge

/-- What a layer sets: the sections that it mentions, and values of some of their fields. -/
structure Layer where
  mentions : Section → Bool
  value : {part : Section} → (field : Field part) → Option field.Value

namespace Layer

def empty : Layer := ⟨fun _ => false, fun _ => none⟩

def atop (new old : Layer) : Layer where
  mentions part := new.mentions part || old.mentions part
  value field := (new.value field).or (old.value field)

/-- What a layer sets of the fields that are listed, each with its section. -/
def within (names : List (String × String)) (layer : Layer) : Layer where
  mentions part := names.any (·.1 == part.name)
  value {part} field := if (part.name, field.name) ∈ names then layer.value field else none

/-- A layer that sets one field. -/
def single {part : Section} (field : Field part) (value : field.Value) : Layer where
  mentions other := other = part
  value {other} named :=
    if same : (⟨part, field⟩ : (part : Section) × Field part) = ⟨other, named⟩ then
      some (Eq.rec (motive := fun pair _ => pair.2.Value) value same)
    else none

@[simp] theorem single_value {part : Section} (field : Field part) (value : field.Value) :
    (single field value).value field = some value := dif_pos rfl

theorem single_other {part other : Section} {field : Field part} {value : field.Value}
    {named : Field other}
    (apart : (⟨part, field⟩ : (part : Section) × Field part) ≠ ⟨other, named⟩) :
    (single field value).value named = none := dif_neg apart

theorem eq_of {first second : Layer} (mentions : ∀ part, first.mentions part = second.mentions part)
    (value : ∀ {part : Section} (field : Field part), first.value field = second.value field) :
    first = second := by
  obtain ⟨mentioned, set⟩ := first
  obtain ⟨_, _⟩ := second
  obtain rfl : mentioned = _ := funext mentions
  congr
  funext part field
  exact value field

theorem atop_within (name : String × String) (names : List (String × String)) (layer old : Layer) :
    (layer.within names).atop ((layer.within [name]).atop old) =
      (layer.within (name :: names)).atop old := by
  refine eq_of (fun part => ?_) fun {part} field => ?_
  · simp only [atop, within, List.any_cons, List.any_nil, Bool.or_false]
    rw [← Bool.or_assoc, Bool.or_comm (names.any _)]
  · simp only [atop, within, List.mem_cons, List.not_mem_nil, or_false]
    generalize (part.name, field.name) = own
    by_cases first : own = name
    · subst first
      simp only [true_or, if_true]
      split
      · cases layer.value field <;> rfl
      · rfl
    · simp only [first, false_or, if_false, Option.none_or]

end Layer

theorem section_lower (part : Section) : Text.lowerCase part.name = part.name := by
  cases part <;> decide

theorem section_injective {part other : Section} (same : part.name = other.name) :
    part = other := by
  cases part <;> cases other <;> first | rfl | exact absurd same (by decide)

theorem section_path (part : Section) : SettingPath.ofKey part.name = [.child part.name] := by
  cases part <;> decide

/-- What settings have for a field. -/
def found {part : Section} (field : Field part) (settings : Setting) : Option Setting :=
  (child part.name settings).bind (child field.name)

/-- That settings hold what a layer sets. -/
structure Holds (settings : Setting) (layer : Layer) : Prop where
  table : ∃ entries origin, settings = .table entries origin
  absent : ∀ part, layer.mentions part = false → child part.name settings = none
  present : ∀ part, layer.mentions part = true →
    ∃ entries origin, child part.name settings = some (.table entries origin)
  values : ∀ {part : Section} (field : Field part),
    Option.Rel field.Writes (found field settings) (layer.value field)

theorem holds_empty : Holds emptyTable .empty :=
  ⟨⟨[], none, rfl⟩, fun _ _ => rfl, nofun, fun _ => .none⟩

/-- That the table of a file is what a layer sets: known sections with known fields, none twice,
each with a value that can be read. -/
structure InFile (entries : List (String × Setting)) (layer : Layer) : Prop where
  distinct : (entries.map (·.1)).Nodup
  sections : ∀ entry ∈ entries, ∃ (part : Section) (fields : _) (origin : _),
    entry = (part.name, .table fields origin) ∧ (fields.map (·.1)).Nodup ∧
    ∀ written ∈ fields, ∃ field : Field part, written.1 = field.name
  mentions : ∀ part, layer.mentions part = (entries.lookup part.name).isSome
  values : ∀ {part : Section} (field : Field part),
    Option.Rel field.Writes ((entries.lookup part.name).bind (child field.name))
      (layer.value field)

theorem inFile_empty : InFile [] .empty :=
  ⟨List.nodup_nil, nofun, fun _ => rfl, fun _ => .none⟩

/-- A value for a field written over what may have been there. -/
theorem rel_over {part : Section} {field : Field part} {new old : Option Setting}
    {value before : Option field.Value} (writes : Option.Rel field.Writes new value)
    (wrote : Option.Rel field.Writes old before) :
    Option.Rel field.Writes (new.elim old fun setting => some (setting.onto old))
      (value.or before) := by
  cases writes with
  | none => exact wrote
  | some writes =>
    refine .some (writes.onto fun setting was => ?_)
    subst was
    cases wrote with
    | some wrote => exact wrote.form

theorem mem_of_lookup {α : Type} {entries : List (String × α)} {name : String} {value : α}
    (present : entries.lookup name = some value) : (name, value) ∈ entries := by
  obtain ⟨before, after, rfl, _⟩ := List.lookup_eq_some_iff.mp present
  simp

/-- Known fields are merged into a section one by one. -/
theorem found_putAll {part : Section} {fields : List (String × Setting)}
    (distinct : (fields.map (·.1)).Nodup)
    (known : ∀ written ∈ fields, ∃ field : Field part, written.1 = field.name)
    (field : Field part) (target : Setting) :
    child field.name (putAll fields target) =
      (fields.lookup field.name).elim (child field.name target) fun setting =>
        some (setting.onto (child field.name target)) := by
  refine child_putAll (fun written member => ?_) distinct target field.name
  obtain ⟨field, named⟩ := known written member
  rw [named]
  exact field.name_lower

/-- What a section is merged into: the table that is there, or a new one. -/
theorem Holds.target {settings : Setting} {layer : Layer} (holds : Holds settings layer)
    (part : Section) :
    ∃ entries origin, (child part.name settings).getD emptyTable = .table entries origin ∧
      ∀ field : Field part, child field.name (.table entries origin) = found field settings := by
  unfold found
  cases mentions : layer.mentions part with
  | false =>
    rw [holds.absent part mentions]
    exact ⟨[], none, rfl, fun _ => rfl⟩
  | true =>
    obtain ⟨entries, origin, present⟩ := holds.present part mentions
    rw [present]
    exact ⟨entries, origin, rfl, fun _ => rfl⟩

/-- A section of a file is a table of known fields. -/
theorem InFile.table {entries : List (String × Setting)} {layer : Layer}
    (file : InFile entries layer) {part : Section} {setting : Setting}
    (present : entries.lookup part.name = some setting) :
    ∃ fields origin, setting = .table fields origin ∧ (fields.map (·.1)).Nodup ∧
      ∀ written ∈ fields, ∃ field : Field part, written.1 = field.name := by
  obtain ⟨other, fields, origin, same, rest⟩ := file.sections _ (mem_of_lookup present)
  obtain rfl : part = other := section_injective (congrArg Prod.fst same)
  exact ⟨fields, origin, congrArg Prod.snd same, rest⟩

/-- The sections of a file are merged one by one. -/
theorem InFile.merged {entries : List (String × Setting)} {layer : Layer}
    (file : InFile entries layer) (settings : Setting) (part : Section) :
    child part.name (putAll entries settings) =
      (entries.lookup part.name).elim (child part.name settings) fun setting =>
        some (setting.onto (child part.name settings)) := by
  refine child_putAll (fun entry member => ?_) file.distinct settings part.name
  obtain ⟨part, _, _, rfl, _⟩ := file.sections entry member
  exact section_lower part

theorem Holds.putAll {settings : Setting} {old layer : Layer} (holds : Holds settings old)
    {entries : List (String × Setting)} (file : InFile entries layer) :
    Holds (putAll entries settings) (layer.atop old) := by
  have mentions (part : Section) : (layer.atop old).mentions part =
      ((entries.lookup part.name).isSome || old.mentions part) := by
    rw [← file.mentions]
    rfl
  -- A section of the file is a table, which is merged into the section that was there.
  have inside {part : Section} {fields : List (String × Setting)} {origin : Option String} :
      (Setting.table fields origin).onto (child part.name settings) =
        Setting.putAll fields ((child part.name settings).getD emptyTable) := by
    simp only [onto]
  refine ⟨?_, fun part => ?_, fun part => ?_, fun {part} field => ?_⟩
  · obtain ⟨before, origin, rfl⟩ := holds.table
    exact table_putAll entries before origin
  · rw [mentions, file.merged]
    cases entries.lookup part.name with
    | none => exact holds.absent part
    | some setting =>
      intro absent
      cases absent
  · rw [mentions, file.merged]
    cases present : entries.lookup part.name with
    | none => exact holds.present part
    | some setting =>
      intro _
      obtain ⟨fields, origin, rfl, _⟩ := file.table present
      obtain ⟨before, origin, target, _⟩ := holds.target part
      obtain ⟨after, origin, table⟩ := table_putAll fields before origin
      exact ⟨after, origin, by rw [Option.elim_some, inside, target, table]⟩
  · have written := file.values field
    unfold found
    rw [file.merged]
    cases present : entries.lookup part.name with
    | none =>
      rw [present] at written
      exact rel_over written (holds.values field)
    | some setting =>
      rw [present] at written
      obtain ⟨fields, origin, rfl, distinct, known⟩ := file.table present
      obtain ⟨before, origin, target, below⟩ := holds.target part
      rw [Option.elim_some, Option.bind_some, inside, target, found_putAll distinct known, below]
      exact rel_over written (holds.values field)

theorem Holds.addFile {settings : Setting} {old layer : Layer} (holds : Holds settings old)
    {entries : List (String × Setting)} (file : InFile entries layer) :
    Holds (addLayer entries settings) (layer.atop old) := by
  rw [addLayer_table fun entry member => ?_]
  · exact holds.putAll file
  · obtain ⟨part, _, _, rfl, _⟩ := file.sections entry member
    exact section_path part

/-- A variable for a field, with what it writes. The start sequence of a deliver policy has a
variable of its own. -/
inductive Variable : {part : Section} → Field part → String × Setting → Setting → Prop where
  | plain {part : Section} (field : Field part) (setting : Setting) :
    Variable field (part.name ++ "." ++ field.name, setting) setting
  | start (number : Setting) :
    Variable .deliverPolicy ("source.deliver_policy.by_start_sequence.start_sequence", number)
      (nested ["by_start_sequence", "start_sequence"] number)

theorem field_path {part : Section} (field : Field part) :
    SettingPath.ofKey (part.name ++ "." ++ field.name) = [part.name, field.name].map .child := by
  cases field <;> decide

theorem start_path :
    SettingPath.ofKey "source.deliver_policy.by_start_sequence.start_sequence" =
      ["source", "deliver_policy", "by_start_sequence", "start_sequence"].map .child := by
  decide

/-- The key of a variable leads to its field, or to a place within. -/
theorem Variable.path {part : Section} {field : Field part} {entry : String × Setting}
    {setting : Setting} (writes : Variable field entry setting) :
    ∃ deeper, SettingPath.ofKey entry.1 = (part.name :: field.name :: deeper).map .child ∧
      setting = nested deeper entry.2 := by
  cases writes with
  | plain => exact ⟨[], field_path field, rfl⟩
  | start number => exact ⟨["by_start_sequence", "start_sequence"], start_path, rfl⟩

/-- A variable is merged as a table with one field. -/
theorem Variable.place_eq {part : Section} {field : Field part} {entry : String × Setting}
    {setting : Setting} (writes : Variable field entry setting) (settings : Setting) :
    place entry.2 (SettingPath.ofKey entry.1) settings =
      putAll [(part.name, .table [(field.name, setting)] none)] settings := by
  obtain ⟨deeper, path, rfl⟩ := writes.path
  rw [path]
  exact place_names _ _ _ _

/-- A variable is about one field only. -/
theorem Variable.unique {part other : Section} {field : Field part} {named : Field other}
    {entry : String × Setting} {first second : Setting} (writes : Variable field entry first)
    (again : Variable named entry second) : (other.name, named.name) = (part.name, field.name) := by
  obtain ⟨_, path, _⟩ := writes.path
  obtain ⟨_, same, _⟩ := again.path
  rw [path] at same
  simp only [List.map_cons, List.cons.injEq, SettingStep.child.injEq] at same
  rw [same.1, same.2.1]

/-- That variables are what a layer sets: each writes the value of a field. -/
structure InVariables (entries : List (String × Setting)) (layer : Layer) : Prop where
  writes : ∀ entry ∈ entries, ∃ (part : Section) (field : Field part) (setting : Setting)
    (value : field.Value),
    Variable field entry setting ∧ field.Writes setting value ∧ layer.value field = some value
  written : ∀ {part : Section} (field : Field part), layer.value field ≠ none →
    ∃ entry ∈ entries, ∃ setting, Variable field entry setting
  mentions : ∀ part, layer.mentions part = true ↔ ∃ field : Field part, layer.value field ≠ none

theorem inFile_single {part : Section} {field : Field part} {setting : Setting}
    {value : field.Value} (writes : field.Writes setting value) (origin : Option String) :
    InFile [(part.name, .table [(field.name, setting)] origin)] (.single field value) := by
  refine ⟨by simp, ?_, fun other => ?_, fun {other} named => ?_⟩
  · intro entry member
    obtain rfl := List.mem_singleton.mp member
    refine ⟨part, _, origin, rfl, by simp, fun written member => ?_⟩
    obtain rfl := List.mem_singleton.mp member
    exact ⟨field, rfl⟩
  · rw [lookup_entry]
    by_cases same : other = part
    · simp [Layer.single, same]
    · simp [Layer.single, same, mt section_injective same]
  · rw [lookup_entry]
    by_cases same : other = part
    · subst same
      rw [if_pos rfl, Option.bind_some, child, entries, lookup_entry]
      by_cases own : named = field
      · subst own
        simpa using Option.Rel.some writes
      · rw [if_neg (mt Field.name_injective own), Layer.single_other (by simpa using Ne.symm own)]
        exact .none
    · rw [if_neg (mt section_injective same), Layer.single_other (by simp [Ne.symm same])]
      exact .none

theorem inVariables_empty : InVariables [] .empty :=
  ⟨nofun, fun _ set => absurd rfl set, fun _ => iff_of_false nofun fun ⟨_, set⟩ => set rfl⟩

theorem inVariables_single {part : Section} {field : Field part} {setting : Setting}
    {value : field.Value} (writes : field.Writes setting value) :
    InVariables [(part.name ++ "." ++ field.name, setting)] (.single field value) := by
  have only {other : Section} {named : Field other}
      (set : (Layer.single field value).value named ≠ none) :
      (⟨part, field⟩ : (part : Section) × Field part) = ⟨other, named⟩ :=
    Decidable.byContradiction fun apart => set (Layer.single_other apart)
  refine ⟨fun entry member => ?_, fun {other} named set => ?_, fun other => ?_⟩
  · obtain rfl := List.mem_singleton.mp member
    exact ⟨part, field, setting, value, .plain field setting, writes,
      Layer.single_value field value⟩
  · cases only set
    exact ⟨_, .head _, setting, .plain field setting⟩
  · refine ⟨fun mentioned => ?_, fun ⟨named, set⟩ => ?_⟩
    · obtain rfl : other = part := of_decide_eq_true mentioned
      exact ⟨field, by simp⟩
    · cases only set
      exact decide_eq_true rfl

theorem within_single {part : Section} {field : Field part} {value : field.Value} {layer : Layer}
    (set : layer.value field = some value) :
    layer.within [(part.name, field.name)] = .single field value := by
  refine Layer.eq_of (fun other => ?_) fun {other} named => ?_
  · by_cases same : other = part
    · simp [Layer.within, Layer.single, same]
    · simp [Layer.within, Layer.single, same, Ne.symm (mt section_injective same)]
  · by_cases own : (⟨part, field⟩ : (part : Section) × Field part) = ⟨other, named⟩
    · cases own
      simp [Layer.within, set]
    · rw [Layer.single_other own]
      refine if_neg fun listed => own ?_
      have same := Prod.mk.inj (List.mem_singleton.mp listed)
      obtain rfl := section_injective same.1
      rw [Field.name_injective same.2]

/-- Variables hold what a layer sets of the fields that they name. -/
theorem Holds.addNamed {settings : Setting} {old layer : Layer} (holds : Holds settings old)
    {entries : List (String × Setting)}
    (writes : ∀ entry ∈ entries, ∃ (part : Section) (field : Field part) (setting : Setting)
      (value : field.Value),
      Variable field entry setting ∧ field.Writes setting value ∧ layer.value field = some value) :
    ∃ names, Holds (addLayer entries settings) ((layer.within names).atop old) ∧
      (∀ name ∈ names, ∃ (part : Section) (field : Field part),
        name = (part.name, field.name) ∧ layer.value field ≠ none) ∧
      ∀ entry ∈ entries, ∀ {part : Section} (field : Field part) (setting : Setting),
        Variable field entry setting → (part.name, field.name) ∈ names := by
  induction entries generalizing settings old with
  | nil =>
    refine ⟨[], ?_, nofun, nofun⟩
    have same : (layer.within []).atop old = old := by
      refine Layer.eq_of (fun part => rfl) fun {part} field => ?_
      simp [Layer.atop, Layer.within]
    rw [same]
    exact holds
  | cons entry rest ih =>
    obtain ⟨part, field, setting, value, named, fits, set⟩ := writes entry (.head _)
    have first : Holds (place entry.2 (SettingPath.ofKey entry.1) settings)
        ((layer.within [(part.name, field.name)]).atop old) := by
      rw [named.place_eq, within_single set]
      exact holds.putAll (inFile_single fits none)
    obtain ⟨names, holds, sound, complete⟩ :=
      ih first fun entry member => writes entry (.tail _ member)
    rw [Layer.atop_within] at holds
    refine ⟨(part.name, field.name) :: names, holds, ?_, ?_⟩
    · intro name member
      rcases List.mem_cons.mp member with rfl | member
      · exact ⟨part, field, rfl, by simp [set]⟩
      · exact sound name member
    · intro other member _ field _ again
      rcases List.mem_cons.mp member with rfl | member
      · rw [named.unique again]
        exact .head _
      · exact .tail _ (complete other member field _ again)

theorem Holds.addVariables {settings : Setting} {old layer : Layer} (holds : Holds settings old)
    {entries : List (String × Setting)} (layered : InVariables entries layer) :
    Holds (addLayer entries settings) (layer.atop old) := by
  obtain ⟨names, holds, sound, complete⟩ := holds.addNamed layered.writes
  have listed {part : Section} {field : Field part} (set : layer.value field ≠ none) :
      (part.name, field.name) ∈ names := by
    obtain ⟨entry, member, setting, named⟩ := layered.written field set
    exact complete entry member field setting named
  have whole : layer.within names = layer := by
    refine Layer.eq_of (fun part => ?_) fun {part} field => ?_
    · rw [Bool.eq_iff_iff, layered.mentions]
      simp only [Layer.within, List.any_eq_true, beq_iff_eq]
      constructor
      · rintro ⟨name, member, same⟩
        obtain ⟨other, field, rfl, set⟩ := sound name member
        obtain rfl := section_injective same
        exact ⟨field, set⟩
      · rintro ⟨field, set⟩
        exact ⟨_, listed set, rfl⟩
    · simp only [Layer.within]
      split
      · rfl
      next unlisted =>
        cases set : layer.value field with
        | none => rfl
        | some value => exact absurd (listed (by simp [set])) unlisted
  rwa [whole] at holds

end StreamBridge.Proofs.SettingLayers
