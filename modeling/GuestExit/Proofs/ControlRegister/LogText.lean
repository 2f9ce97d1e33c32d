import GuestExit.Proofs.Vm.ReadBack

/-!
# The text of the log loses nothing

Written out, the log is still all there: `ExitLog.ofText` reads it back from the text, with nothing
known of the records but where in a line the two numerals stand. So two logs with the same text are
the same log.

What can be found by looking at the text alone is that it consists of a title and three sections
(`ExitLog.sections`), one for each register, in order; that a heading tells how many lines follow up
to the next one; and that these are all equally long. For that the numerals have to be padded to a
width that suffices for any word.
-/

namespace GuestExit

open Text (numeral hexWord linesOf)

namespace Text

/-- Padded to sixteen digits, any word is exactly that long. -/
theorem length_leftpad_word (w : UInt64) :
    ((Nat.toDigits 16 w.toNat).leftpad 16 '0').length = 16 := by
  have hdigits : (Nat.toDigits 16 w.toNat).length ≤ 16 := by
    refine (Nat.length_toDigits_le_iff (by decide) (by decide)).mpr ?_
    have hlt := w.toNat_lt
    omega
  rw [List.length_leftpad]
  omega

theorem numeral_word (w : UInt64) :
    numeral 16 ((Nat.toDigits 16 w.toNat).leftpad 16 '0') = w.toNat := by
  rw [numeral_leftpad (by decide), numeral_toDigits (by decide) (by decide)]

end Text

namespace ControlRegister

/-! ## Lines of records -/

namespace ExitRecord

/-- The record that a line gives: two numerals of sixteen digits, at fixed places. -/
def ofLine (line : String) : ExitRecord where
  value := .ofNat (numeral 16 ((line.toList.drop 12).take 16))
  shadow := .ofNat (numeral 16 ((line.toList.drop 38).take 16))

theorem toList_words (r : ExitRecord) : r.words.toList = "    value=0x".toList
    ++ ((Nat.toDigits 16 r.value.toNat).leftpad 16 '0' ++ (" shadow=0x".toList
      ++ (Nat.toDigits 16 r.shadow.toNat).leftpad 16 '0')) := by
  unfold words hexWord
  simp [String.toList_append]

/-- **A record is read from its line as it was.** -/
theorem ofLine_words (r : ExitRecord) : ofLine r.words = r := by
  have hvalue := Text.length_leftpad_word r.value
  have hshadow := Text.length_leftpad_word r.shadow
  have hopening : "    value=0x".toList.length = 12 := by decide
  have hfirst : (r.words.toList.drop 12).take 16
      = (Nat.toDigits 16 r.value.toNat).leftpad 16 '0' := by
    rw [toList_words, List.drop_left' hopening, List.take_left' hvalue]
  have hsecond : (r.words.toList.drop 38).take 16
      = (Nat.toDigits 16 r.shadow.toNat).leftpad 16 '0' := by
    have hfront : ("    value=0x".toList ++ ((Nat.toDigits 16 r.value.toNat).leftpad 16 '0'
        ++ " shadow=0x".toList)).length = 38 := by
      rw [List.length_append, List.length_append, hvalue, hopening]
      rfl
    rw [toList_words, ← List.append_assoc _ " shadow=0x".toList, ← List.append_assoc,
      List.drop_left' hfront, List.take_of_length_le (by omega)]
  unfold ofLine
  rw [hfirst, hsecond, Text.numeral_word, Text.numeral_word, UInt64.ofNat_toNat, UInt64.ofNat_toNat]

theorem map_ofLine_words (records : List ExitRecord) :
    (records.map words).map ofLine = records := by
  have hid : ofLine ∘ words = id := funext ofLine_words
  rw [List.map_map, hid, List.map_id]

/-- **All lines of records are equally long**, whatever they say. -/
theorem length_words (r : ExitRecord) : r.words.length = 54 := by
  rw [← String.length_toList, toList_words, List.length_append, List.length_append,
    List.length_append, Text.length_leftpad_word, Text.length_leftpad_word]
  rfl

end ExitRecord

namespace ExitLog

/-! ## Reading the log -/

/-- The log that a text gives. -/
def ofText (text : String) : ExitLog :=
  let records reg := ((readSection reg (linesOf text)).map ExitRecord.ofLine).toArray
  { cr0 := records .cr0, cr3 := records .cr3, cr4 := records .cr4 }

/-- **The log is read from its text as it was.** -/
theorem ofText_text (log : ExitLog) : ofText log.text = log := by
  have hrecords : ∀ reg, ((readSection reg (linesOf log.text)).map ExitRecord.ofLine).toArray
      = log.get reg := by
    intro reg
    rw [linesOf_text, readSection_lines, ExitRecord.map_ofLine_words]
  unfold ofText
  simp only [hrecords, get]

theorem text_inj {log log' : ExitLog} : log.text = log'.text ↔ log = log' := by
  constructor
  · intro h
    rw [← ofText_text log, h, ofText_text]
  · exact congrArg text

/-! ## Sections -/

/-- The sections of some lines: every line that is not that of a record, with the records up to the
next one. -/
def sections : List String → List (String × List String)
  | [] => []
  | line :: rest =>
    if isRecord line then sections rest else (line, rest.takeWhile isRecord) :: sections rest

/-- The number of records that a heading gives. -/
def readHeading (line : String) : Nat :=
  numeral 10 ((line.toList.drop 7).takeWhile Char.isDigit)

theorem readHeading_heading (reg : ControlReg) (records : Array ExitRecord) :
    readHeading (heading (caption reg) records) = records.size := by
  have hheading : (heading (caption reg) records).toList = ("  " ++ caption reg ++ " (").toList
      ++ (Nat.toDigits 10 records.size ++ " exits)".toList) := by
    rw [heading_eq, Nat.toString_eq_ofList_toDigits]
    simp [String.toList_append]
  have hlength : ("  " ++ caption reg ++ " (").toList.length = 7 := by
    cases reg <;> decide
  unfold readHeading
  rw [hheading, List.drop_left' hlength, Text.takeWhile_decimal _ (by decide),
    Text.numeral_toDigits (by decide) (by decide)]

theorem sections_of_isRecord {lines rest : List String} (h : ∀ line ∈ lines, isRecord line = true) :
    sections (lines ++ rest) = sections rest := by
  induction lines with
  | nil => rfl
  | cons line lines ih =>
    rw [List.cons_append, sections, if_pos (h line List.mem_cons_self)]
    exact ih fun l hl => h l (List.mem_cons_of_mem line hl)

theorem sections_append (reg : ControlReg) (records : Array ExitRecord) {rest : List String}
    (next : rest.takeWhile isRecord = []) :
    sections (sectionLines (caption reg) records ++ rest)
      = (heading (caption reg) records, records.toList.map ExitRecord.words) :: sections rest := by
  have hrecords : ∀ line ∈ records.toList.map ExitRecord.words, isRecord line = true :=
    List.forall_mem_map.mpr fun r _ => isRecord_words r
  unfold sectionLines
  rw [List.cons_append, sections, if_neg (by simp [isRecord_heading]),
    sections_of_isRecord hrecords, List.takeWhile_append_of_pos hrecords, next, List.append_nil]

/-- The lines of a register, as a section of the text that a log was written in. -/
structure IsSection (log : ExitLog) (reg : ControlReg) (s : String × List String) : Prop where
  heading : isHeading reg s.1 = true
  /-- The heading tells how many lines follow. -/
  count : readHeading s.1 = s.2.length
  records : s.2.map ExitRecord.ofLine = (log.get reg).toList
  width : ∀ line ∈ s.2, line.length = 54

theorem isSection_section (log : ExitLog) (reg : ControlReg) :
    IsSection log reg (heading (caption reg) (log.get reg),
      (log.get reg).toList.map ExitRecord.words) where
  heading := by
    rw [isHeading_heading]
    exact decide_eq_true rfl
  count := by
    rw [readHeading_heading]
    simp
  records := ExitRecord.map_ofLine_words _
  width := List.forall_mem_map.mpr fun r _ => r.length_words

theorem sections_lines (log : ExitLog) : ∃ cr0 cr3 cr4,
    sections log.lines = [("Control register exit log", []), cr0, cr3, cr4]
      ∧ IsSection log .cr0 cr0 ∧ IsSection log .cr3 cr3 ∧ IsSection log .cr4 cr4 := by
  refine ⟨_, _, _, ?_, log.isSection_section .cr0, log.isSection_section .cr3,
    log.isSection_section .cr4⟩
  have htitle : isRecord "Control register exit log" = false := by decide
  rw [lines_eq, sections, if_neg (by simp [htitle]), takeWhile_sectionLines,
    sections_append .cr0 _ (takeWhile_sectionLines ..),
    sections_append .cr3 _ (takeWhile_sectionLines ..), sections_append .cr4 _ rfl]
  rfl

end ExitLog

variable {σ : Type}

/--
**The text of the log loses nothing.** A sink without a bound takes all of it, and the log is read
back from it; so two virtualizers write the same exactly if they have the same records. The text
has a title and three sections, whose headings tell how many records follow, and all lines of
records are equally long.
-/
theorem log_text_loses_nothing (v v' : Virtualizer σ) (held : String) :
    v.log.writeTo { text := held } = .complete (held ++ v.log.text)
      ∧ ExitLog.ofText v.log.text = v.log
      ∧ (v.log.writeTo { text := held } = v'.log.writeTo { text := held }
        ↔ v.log.cr0 = v'.log.cr0 ∧ v.log.cr3 = v'.log.cr3 ∧ v.log.cr4 = v'.log.cr4)
      ∧ ∃ cr0 cr3 cr4,
        ExitLog.sections (linesOf v.log.text) = [("Control register exit log", []), cr0, cr3, cr4]
          ∧ v.log.IsSection .cr0 cr0 ∧ v.log.IsSection .cr3 cr3 ∧ v.log.IsSection .cr4 cr4 := by
  refine ⟨v.log.writeTo_unbounded held, v.log.ofText_text, ?_, ?_⟩
  · rw [ExitLog.writeTo_unbounded, ExitLog.writeTo_unbounded, Text.Delivery.complete.injEq,
      String.append_right_inj, ExitLog.text_inj]
    cases v.log
    cases v'.log
    simp
  · rw [ExitLog.linesOf_text]
    exact v.log.sections_lines

end ControlRegister

end GuestExit
