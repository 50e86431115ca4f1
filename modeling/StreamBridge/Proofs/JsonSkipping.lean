import StreamBridge.Proofs.JsonNumerals
import StreamBridge.Proofs.JsonSpellings

/-! Skipping values. Every well-formed value is skipped exactly, whatever it holds and however deep:
the turns that a skip takes are counted against the bytes it passes, so its fuel lasts. -/

namespace StreamBridge.Proofs.JsonSkipping
open Json JsonNumbers JsonGrammar

/-! ### Values that hold no others -/

theorem skipWord_append (word rest : Bytes) : skipWord word (word ++ rest) = .ok rest := by
  induction word with
  | nil => rfl
  | cons letter word ih => simpa [skipWord] using ih

theorem skipScalar_word {text : String} (known : text ∈ ["null", "true", "false"]) (rest : Bytes) :
    skipScalar (Ascii.bytes text ++ rest) = .ok (some rest) := by
  simp only [List.mem_cons, List.not_mem_nil, or_false] at known
  obtain rfl | rfl | rfl := known
  all_goals exact congrArg (some <$> ·) (skipWord_append _ rest)

theorem skipScalar_digit {byte : UInt8} (digit : Ascii.isDigit byte = true) (rest : Bytes) :
    skipScalar (byte :: rest) = some <$> skipNumber (byte :: rest) := by
  unfold skipScalar
  split
  next empty => cases empty
  iterate 7
    next same =>
      obtain ⟨rfl, -⟩ := List.cons.inj same
      cases digit
  next same =>
    obtain ⟨rfl, rfl⟩ := List.cons.inj same
    rw [if_pos digit]

theorem skipScalar_number (numeral : Numeral) {rest : Bytes} (ends : Ends rest) :
    skipScalar (numeral.text ++ rest) = .ok (some rest) := by
  have skips := JsonNumerals.skipNumber_unsigned numeral ends
  rw [Numeral.text]
  split
  · exact congrArg (some <$> ·) skips
  · obtain ⟨byte, bytes, written, digit⟩ := written_cons numeral.whole
    rw [Numeral.unsigned, written, List.cons_append, List.cons_append] at skips ⊢
    rw [skipScalar_digit digit, skips]
    rfl

theorem skipScalar_string {body : Bytes} (inside : Inside body) (rest : Bytes) :
    skipScalar (quoted body ++ rest) = .ok (some rest) := by
  rw [quoted_append]
  exact congrArg (some <$> ·) (JsonSpellings.skipString_inside inside _ rest
    (by simp only [List.length_append]; omega))

theorem skipKey_quoted {key : Bytes} (inside : Inside key) (behind : Blanks) (rest : Bytes) :
    skipKey (quoted key ++ (behind.bytes ++ Ascii.colon :: rest)) = .ok rest := by
  rw [quoted_append]
  have skips := JsonSpellings.skipString_inside inside
    ((key ++ Ascii.quote :: (behind.bytes ++ Ascii.colon :: rest)).length + 1)
    (behind.bytes ++ Ascii.colon :: rest) (by simp only [List.length_append]; omega)
  have ahead : skipBlank (behind.bytes ++ Ascii.colon :: rest) = Ascii.colon :: rest :=
    skipBlank_blanks behind _
  have unfolded := skipKey.eq_2 (key ++ Ascii.quote :: (behind.bytes ++ Ascii.colon :: rest))
  simp only [skips, bind, Except.bind, ahead] at unfolded
  exact unfolded

/-! ### Turns -/

/-- The byte that opens a frame. -/
def opening : Frame → UInt8
  | .list => Ascii.openBracket
  | .object => Ascii.openBrace

/-- A turn of a skip where nothing is wrong: what is open, what is next and the bytes, before it and
after it. -/
inductive Turn : List Frame → Skip → Bytes → List Frame → Skip → Bytes → Prop
  | scalar {frames : List Frame} {before after : Bytes}
      (skips : skipScalar (skipBlank before) = .ok (some after)) :
      Turn frames .value before frames .ended after
  | opens (frame : Frame) {frames : List Frame} {before after : Bytes}
      (ahead : skipBlank before = opening frame :: after) :
      Turn frames .value before (frame :: frames) .opened after
  | empty {frame : Frame} {frames : List Frame} {before after : Bytes}
      (ahead : skipBlank before = frame.close :: after) :
      Turn (frame :: frames) .opened before frames .ended after
  | first {frame : Frame} {frames : List Frame} {before more : Bytes} {byte : UInt8}
      (ahead : skipBlank before = byte :: more) (other : byte ≠ frame.close) :
      Turn (frame :: frames) .opened before (frame :: frames) frame.entry (byte :: more)
  | key {frames : List Frame} {before after : Bytes}
      (skips : skipKey (skipBlank before) = .ok after) :
      Turn frames .key before frames .value after
  | comma {frame : Frame} {frames : List Frame} {before after : Bytes}
      (ahead : skipBlank before = Ascii.comma :: after) :
      Turn (frame :: frames) .ended before (frame :: frames) frame.entry after
  | close {frame : Frame} {frames : List Frame} {before after : Bytes}
      (ahead : skipBlank before = frame.close :: after) :
      Turn (frame :: frames) .ended before frames .ended after

theorem skipFrom_turn {frames others : List Frame} {state next : Skip} {before after : Bytes}
    (turn : Turn frames state before others next after) (fuel : Nat) :
    skipFrom (fuel + 1) frames state before = skipFrom fuel others next after := by
  rw [skipFrom.eq_def]
  cases turn with
  | scalar skips => simp only [skips]
  | opens frame ahead => cases frame <;> simp only [ahead, opening] <;> rfl
  | empty ahead => simp [ahead]
  | first ahead other => simp [ahead, other]
  | key skips => simp only [skips]
  | comma ahead => simp [ahead]
  | @close frame _ _ _ ahead =>
    have other : frame.close ≠ Ascii.comma := by cases frame <;> decide
    simp [ahead, other]

/-- A skip gets from one point to another, with at most three turns for a byte on the way. -/
def Passes (frames : List Frame) (state : Skip) (before : Bytes) (others : List Frame)
    (next : Skip) (after : Bytes) : Prop :=
  ∃ turns, turns + 3 * after.length ≤ 3 * before.length ∧
    ∀ fuel, skipFrom (fuel + turns) frames state before = skipFrom fuel others next after

theorem Passes.trans {frames₁ frames₂ frames₃ : List Frame} {state₁ state₂ state₃ : Skip}
    {rest₁ rest₂ rest₃ : Bytes} (first : Passes frames₁ state₁ rest₁ frames₂ state₂ rest₂)
    (second : Passes frames₂ state₂ rest₂ frames₃ state₃ rest₃) :
    Passes frames₁ state₁ rest₁ frames₃ state₃ rest₃ := by
  obtain ⟨turns, cheap, goes⟩ := first
  obtain ⟨more, cheap', goes'⟩ := second
  refine ⟨more + turns, by omega, fun fuel => ?_⟩
  rw [← Nat.add_assoc, goes, goes']

theorem Passes.skipValue {before after : Bytes} (passes : Passes [] .value before [] .ended after) :
    skipValue before = .ok after := by
  obtain ⟨turns, cheap, goes⟩ := passes
  obtain ⟨left, enough⟩ : ∃ left, 3 * before.length + 3 = left + 1 + turns :=
    ⟨3 * before.length + 2 - turns, by omega⟩
  rw [Json.skipValue, enough, goes]
  rfl

theorem Turn.passes {frames others : List Frame} {state next : Skip} {before after : Bytes}
    (turn : Turn frames state before others next after) (shorter : after.length < before.length) :
    Passes frames state before others next after :=
  ⟨1, by omega, skipFrom_turn turn⟩

-- The turn at the first value or key of a frame reads none of its bytes, so it is counted together
-- with the turn at the opening mark.
theorem Turn.passes_both {frames₁ frames₂ frames₃ : List Frame} {state₁ state₂ state₃ : Skip}
    {rest₁ rest₂ rest₃ : Bytes} (first : Turn frames₁ state₁ rest₁ frames₂ state₂ rest₂)
    (second : Turn frames₂ state₂ rest₂ frames₃ state₃ rest₃)
    (shorter : rest₃.length < rest₁.length) : Passes frames₁ state₁ rest₁ frames₃ state₃ rest₃ :=
  ⟨2, by omega, fun fuel => (skipFrom_turn first (fuel + 1)).trans (skipFrom_turn second fuel)⟩

theorem skipBlank_length (rest : Bytes) : (skipBlank rest).length ≤ rest.length :=
  (List.dropWhile_suffix _).length_le

theorem length_ahead {before after : Bytes} {byte : UInt8}
    (ahead : skipBlank before = byte :: after) : after.length < before.length := by
  have length := skipBlank_length before
  rwa [ahead, List.length_cons] at length

theorem passes_empty (frame : Frame) (frames : List Frame) {before inner after : Bytes}
    (opens : skipBlank before = opening frame :: inner)
    (closes : skipBlank inner = frame.close :: after) :
    Passes frames .value before frames .ended after :=
  (Turn.opens frame opens).passes_both (.empty closes)
    (Nat.lt_trans (length_ahead closes) (length_ahead opens))

theorem passes_opened (frame : Frame) (frames : List Frame) {before inner more : Bytes}
    {byte : UInt8} (opens : skipBlank before = opening frame :: inner)
    (ahead : skipBlank inner = byte :: more) (other : byte ≠ frame.close) :
    Passes frames .value before (frame :: frames) frame.entry (byte :: more) := by
  refine (Turn.opens frame opens).passes_both (.first ahead other) ?_
  calc (byte :: more).length = (skipBlank inner).length := by rw [ahead]
    _ ≤ inner.length := skipBlank_length inner
    _ < before.length := length_ahead opens

theorem passes_close (frame : Frame) (frames : List Frame) {before after : Bytes}
    (closes : skipBlank before = frame.close :: after) :
    Passes (frame :: frames) .ended before frames .ended after :=
  (Turn.close closes).passes (length_ahead closes)

theorem passes_comma (frame : Frame) (frames : List Frame) {before after : Bytes}
    (ahead : skipBlank before = Ascii.comma :: after) :
    Passes (frame :: frames) .ended before (frame :: frames) frame.entry after :=
  (Turn.comma ahead).passes (length_ahead ahead)

theorem passes_key (frames : List Frame) {before key rest : Bytes} (inside : Inside key)
    (behind : Blanks)
    (ahead : skipBlank before = quoted key ++ (behind.bytes ++ Ascii.colon :: rest)) :
    Passes frames .key before frames .value rest := by
  have length := skipBlank_length before
  simp only [ahead, List.length_append, List.length_cons] at length
  exact (Turn.key (by rw [ahead, skipKey_quoted inside])).passes (by omega)

/-! ### Lists and objects -/

/-- A part of a list or an object is passed, but for the blanks behind it. -/
structure Part (frame : Frame) (part : Bytes) : Prop where
  starts : ∀ rest, ∃ byte more, skipBlank (part ++ rest) = byte :: more ∧ ¬ Blank byte ∧
    byte ≠ frame.close
  passes : ∀ (frames : List Frame) (before rest : Bytes),
    skipBlank before = skipBlank (part ++ rest) → Ends rest →
    ∃ after : Blanks, Passes (frame :: frames) frame.entry before (frame :: frames) .ended
      (after.bytes ++ rest)

theorem ends_joined (parts : List Bytes) {tail : Bytes} (ends : Ends tail) :
    Ends (joined false parts tail) := by
  cases parts with
  | nil => exact ends
  | cons part parts =>
    rintro _ ⟨⟩
    decide

theorem passes_parts (frame : Frame) {parts : List Bytes} (each : ∀ part ∈ parts, Part frame part)
    (frames : List Frame) {tail rest : Bytes} (ends : Ends tail)
    (closes : skipBlank tail = frame.close :: rest) (after : Blanks) :
    Passes (frame :: frames) .ended (after.bytes ++ joined false parts tail) frames .ended
      rest := by
  induction parts generalizing after with
  | nil => exact passes_close frame frames (by rw [skipBlank_blanks]; exact closes)
  | cons part parts ih =>
    obtain ⟨after', passes⟩ := (each part (.head _)).passes frames
      (part ++ joined false parts tail) (joined false parts tail) rfl (ends_joined parts ends)
    have comma : skipBlank (after.bytes ++ joined false (part :: parts) tail) =
        Ascii.comma :: (part ++ joined false parts tail) := skipBlank_blanks after _
    exact ((passes_comma frame frames comma).trans passes).trans
      (ih (fun part member => each part (.tail _ member)) after')

theorem passes_frame (frame : Frame) {parts : List Bytes} (each : ∀ part ∈ parts, Part frame part)
    (frames : List Frame) {before tail rest : Bytes} (ends : Ends tail)
    (opens : skipBlank before = opening frame :: joined true parts tail)
    (closes : skipBlank tail = frame.close :: rest) :
    Passes frames .value before frames .ended rest := by
  cases parts with
  | nil => exact passes_empty frame frames opens closes
  | cons part parts =>
    obtain ⟨byte, more, ahead, solid, other⟩ :=
      (each part (.head _)).starts (joined false parts tail)
    have opened := passes_opened frame frames opens ahead other
    obtain ⟨after, passes⟩ := (each part (.head _)).passes frames (byte :: more)
      (joined false parts tail) (by rw [ahead, skipBlank_ahead solid])
      (ends_joined parts ends)
    exact (opened.trans passes).trans
      (passes_parts frame (fun part member => each part (.tail _ member)) frames ends closes after)

/-- A value is passed wherever it is next, if what follows does not continue it. -/
def Skips (value : Bytes) : Prop :=
  ∀ (frames : List Frame) (before rest : Bytes), skipBlank before = value ++ rest → Ends rest →
    Passes frames .value before frames .ended rest

theorem skips_scalar {value : Bytes} (nonempty : 0 < value.length)
    (skips : ∀ rest, Ends rest → skipScalar (value ++ rest) = .ok (some rest)) : Skips value := by
  intro frames before rest ahead ends
  have length := skipBlank_length before
  rw [ahead, List.length_append] at length
  exact (Turn.scalar (by rw [ahead, skips rest ends])).passes (by omega)

theorem skipBlank_item {item : Padded} (wellFormed : WellFormed item.value) (rest : Bytes) :
    skipBlank (item.text ++ rest) = item.value ++ (item.after.bytes ++ rest) := by
  rw [Padded.text, List.append_assoc, skipBlank_blanks, List.append_assoc,
    skipBlank_value wellFormed]

theorem part_item {item : Padded} (wellFormed : WellFormed item.value) (skips : Skips item.value) :
    Part .list item.text := by
  refine ⟨fun rest => ?_, fun frames before rest ahead ends => ?_⟩
  · obtain ⟨byte, more, same, solid, other⟩ := wellFormed.starts
    exact ⟨byte, _, by rw [skipBlank_item wellFormed, same]; rfl, solid, other⟩
  · rw [skipBlank_item wellFormed] at ahead
    exact ⟨item.after, skips _ before _ ahead (ends_blanks _ ends)⟩

theorem skipBlank_entry (entry : Entry) (rest : Bytes) :
    skipBlank (entry.text ++ rest) = quoted entry.key ++
      (entry.behind.bytes ++ Ascii.colon :: (entry.content.text ++ rest)) := by
  simp only [Entry.text, List.append_assoc, List.cons_append]
  exact skipBlank_blanks entry.before _

theorem part_entry {entry : Entry} (inside : Inside entry.key)
    (wellFormed : WellFormed entry.content.value) (skips : Skips entry.content.value) :
    Part .object entry.text := by
  refine ⟨fun rest => ?_, fun frames before rest ahead ends => ?_⟩
  · exact ⟨Ascii.quote, _, skipBlank_entry entry rest, by decide, by decide⟩
  · rw [skipBlank_entry] at ahead
    exact ⟨entry.content.after, (passes_key _ inside entry.behind ahead).trans
      (skips _ _ _ (skipBlank_item wellFormed rest) (ends_blanks _ ends))⟩

theorem skips_wellFormed {value : Bytes} (wellFormed : WellFormed value) : Skips value := by
  induction wellFormed with
  | word known =>
    have nonempty := List.length_pos_iff.mpr (WellFormed.word known).nonempty
    exact skips_scalar nonempty fun rest _ => skipScalar_word known rest
  | number numeral =>
    have nonempty := List.length_pos_iff.mpr (WellFormed.number numeral).nonempty
    exact skips_scalar nonempty fun rest ends => skipScalar_number numeral ends
  | string inside => exact skips_scalar (Nat.succ_pos _) fun rest _ => skipScalar_string inside rest
  | @list items blanks each ih =>
    intro frames before rest ahead ends
    have parts : ∀ part ∈ items.map Padded.text, Part .list part := by
      intro part member
      obtain ⟨item, present, rfl⟩ := List.mem_map.mp member
      exact part_item (each item present) (ih item present)
    rw [listText_append] at ahead
    exact passes_frame .list parts frames (ends_blanks blanks (closeBracket_ends rest)) ahead
      (skipBlank_blanks blanks _)
  | @object entries blanks keys each ih =>
    intro frames before rest ahead ends
    have parts : ∀ part ∈ entries.map Entry.text, Part .object part := by
      intro part member
      obtain ⟨entry, present, rfl⟩ := List.mem_map.mp member
      exact part_entry (keys entry present) (each entry present) (ih entry present)
    rw [objectText_append] at ahead
    exact passes_frame .object parts frames (ends_blanks blanks (closeBrace_ends rest)) ahead
      (skipBlank_blanks blanks _)

/-- A well-formed value is skipped, with the blanks before it, and nothing behind it. -/
theorem skipValue_wellFormed {value before rest : Bytes} (wellFormed : WellFormed value)
    (ahead : skipBlank before = value ++ rest) (ends : Ends rest) : skipValue before = .ok rest :=
  (skips_wellFormed wellFormed [] before rest ahead ends).skipValue

end StreamBridge.Proofs.JsonSkipping
