import GuestExit.Proofs.Text.Reading
import GuestExit.Proofs.Vm.Dump

/-!
# Reading a dump back

A dump is read by its lines alone, with nothing known of the records it was made from. The log of
control register accesses is read section by section: a heading says which register is meant, and
the lines of its records are those that follow and are indented further (`ExitLog.readSection`). In
the counts every line speaks for itself: two numerals at fixed places are the vector and how often
it was seen, and a vector without a line was not seen at all (`Counts.readCount`).

Both find what was written. They also read a dump that is missing, as one without any records.
-/

namespace GuestExit

open Text (opens numeral column hex)

namespace ControlRegister

/-- A register as the log names it. -/
def caption (reg : ControlReg) : String := "CR" ++ toString reg.code

namespace ExitLog

/-- Whether a line is the heading of a register. -/
def isHeading (reg : ControlReg) (line : String) : Bool :=
  opens ("  " ++ caption reg ++ " (") line

/-- Whether a line is that of a record. -/
def isRecord (line : String) : Bool := opens "    " line

/-- The lines of the records of a register, if `lines` are those of a log. -/
def readSection (reg : ControlReg) (lines : List String) : List String :=
  ((lines.dropWhile fun line => !isHeading reg line).drop 1).takeWhile isRecord

theorem heading_eq (name : String) (records : Array ExitRecord) : heading name records
    = "  " ++ name ++ " (" ++ (toString records.size ++ " exits)") := by
  unfold heading
  rw [String.append_assoc]

theorem isHeading_heading (reg reg' : ControlReg) (records : Array ExitRecord) :
    isHeading reg (heading (caption reg') records) = decide (reg = reg') := by
  -- the register is told by then, the number of records only follows
  have hlong : ("  " ++ caption reg ++ " (").toList.length
      ≤ ("  " ++ caption reg' ++ " (").toList.length := by
    cases reg <;> cases reg' <;> decide
  unfold isHeading
  rw [heading_eq, Text.opens_append_of_le hlong]
  cases reg <;> cases reg' <;> decide

theorem isRecord_heading (reg : ControlReg) (records : Array ExitRecord) :
    isRecord (heading (caption reg) records) = false := by
  have hlong : "    ".toList.length ≤ ("  " ++ caption reg ++ " (").toList.length := by
    cases reg <;> decide
  unfold isRecord
  rw [heading_eq, Text.opens_append_of_le hlong]
  cases reg <;> decide

theorem words_eq (r : ExitRecord) : r.words = "    value="
    ++ (Text.hexWord r.value.toNat ++ " shadow=" ++ Text.hexWord r.shadow.toNat) := by
  unfold ExitRecord.words
  simp only [String.append_assoc]

theorem isRecord_words (r : ExitRecord) : isRecord r.words = true := by
  unfold isRecord
  rw [words_eq, Text.opens_append_of_le (by decide)]
  decide

theorem isHeading_words (reg : ControlReg) (r : ExitRecord) : isHeading reg r.words = false := by
  have hlong : ("  " ++ caption reg ++ " (").toList.length ≤ "    value=".toList.length := by
    cases reg <;> decide
  unfold isHeading
  rw [words_eq, Text.opens_append_of_le hlong]
  cases reg <;> decide

/-- A section is read up to where the next one starts, and those of other registers are passed
over. -/
theorem readSection_append (reg reg' : ControlReg) (records : Array ExitRecord) {rest : List String}
    (next : rest.takeWhile isRecord = []) :
    readSection reg (sectionLines (caption reg') records ++ rest)
      = if reg = reg' then records.toList.map ExitRecord.words else readSection reg rest := by
  have hrecords : ∀ line ∈ records.toList.map ExitRecord.words,
      isRecord line = true ∧ (!isHeading reg line) = true := by
    intro line hline
    obtain ⟨r, -, rfl⟩ := List.mem_map.mp hline
    exact ⟨isRecord_words r, by rw [isHeading_words]; rfl⟩
  have hheading := isHeading_heading reg reg' records
  unfold readSection sectionLines
  rw [List.cons_append, List.dropWhile_cons, hheading]
  split_ifs with h e e
  · simp [e] at h
  · rw [List.dropWhile_append_of_pos fun line hline => (hrecords line hline).2]
  · rw [List.drop_one, List.tail_cons,
      List.takeWhile_append_of_pos fun line hline => (hrecords line hline).1, next, List.append_nil]
  · simp [e] at h

theorem takeWhile_sectionLines (reg : ControlReg) (records : Array ExitRecord)
    (rest : List String) :
    (sectionLines (caption reg) records ++ rest).takeWhile isRecord = [] := by
  unfold sectionLines
  rw [List.cons_append, List.takeWhile_cons, isRecord_heading]
  rfl

theorem lines_eq (log : ExitLog) : log.lines = "Control register exit log"
    :: (sectionLines (caption .cr0) log.cr0 ++ (sectionLines (caption .cr3) log.cr3
      ++ (sectionLines (caption .cr4) log.cr4 ++ []))) := by
  unfold lines
  rw [List.append_nil, List.append_assoc]
  rfl

/-- **The records of a register are read as they were written**, each as its line. -/
theorem readSection_lines (log : ExitLog) (reg : ControlReg) :
    readSection reg log.lines = (log.get reg).toList.map ExitRecord.words := by
  have htitle : ∀ rest, readSection reg ("Control register exit log" :: rest)
      = readSection reg rest := by
    intro rest
    have hno : isHeading reg "Control register exit log" = false := by cases reg <;> decide
    unfold readSection
    rw [List.dropWhile_cons, hno]
    rfl
  rw [lines_eq, htitle, readSection_append reg .cr0 _ (takeWhile_sectionLines ..),
    readSection_append reg .cr3 _ (takeWhile_sectionLines ..), readSection_append reg .cr4 _ rfl]
  cases reg <;> rfl

/-- There are no lines of records but those in the three sections. -/
theorem filter_isRecord_lines (log : ExitLog) : log.lines.filter isRecord
    = [.cr0, .cr3, .cr4].flatMap fun reg => readSection reg log.lines := by
  have hsection : ∀ reg records, (sectionLines (caption reg) records).filter isRecord
      = records.toList.map ExitRecord.words := by
    intro reg records
    unfold sectionLines
    rw [List.filter_cons_of_neg (by simp [isRecord_heading]), List.filter_eq_self]
    intro line hline
    obtain ⟨r, -, rfl⟩ := List.mem_map.mp hline
    exact isRecord_words r
  have htitle : isRecord "Control register exit log" = false := by decide
  have hcr0 := hsection .cr0 log.cr0
  have hcr3 := hsection .cr3 log.cr3
  have hcr4 := hsection .cr4 log.cr4
  simp only [readSection_lines]
  unfold lines
  rw [List.filter_cons_of_neg (by simp [htitle]), List.filter_append, List.filter_append]
  show (sectionLines (caption .cr0) log.cr0).filter isRecord
    ++ (sectionLines (caption .cr3) log.cr3).filter isRecord
    ++ (sectionLines (caption .cr4) log.cr4).filter isRecord = _
  rw [hcr0, hcr3, hcr4]
  simp [get]

end ExitLog

end ControlRegister

namespace Interrupt.Counts

/-- The vector and the count that a line gives. -/
def readLine (line : String) : Nat × Nat :=
  (numeral 10 ((line.toList.drop 2).take 3), numeral 16 (line.toList.drop 9))

/-- The count of a vector, if `lines` are those of the counts. -/
def readCount (w : UInt8) (lines : List String) : Nat :=
  (((lines.drop 1).map readLine).lookup w.toNat).getD 0

theorem readLine_words (v : UInt8) (n : UInt64) : readLine (words v n) = (v.toNat, n.toNat) := by
  -- a vector has three digits at most, so the column is filled exactly
  have hdigits : (Nat.toDigits 10 v.toNat).length ≤ 3 := by
    refine (Nat.length_toDigits_le_iff (by decide) (by decide)).mpr ?_
    have hlt : v.toNat < 256 := v.toNat_lt
    omega
  have hcolumn : ((Nat.toDigits 10 v.toNat).leftpad 3 ' ').length = 3 := by
    rw [List.length_leftpad]
    omega
  have hwords : (words v n).toList = [' ', ' ']
      ++ ((Nat.toDigits 10 v.toNat).leftpad 3 ' ' ++ ([':', ' ', '0', 'x']
        ++ Nat.toDigits 16 n.toNat)) := by
    unfold words column hex
    simp [String.toList_append]
  have hvector : ((words v n).toList.drop 2).take 3 = (Nat.toDigits 10 v.toNat).leftpad 3 ' ' := by
    rw [hwords]
    exact List.take_left' hcolumn
  have hcount : (words v n).toList.drop 9 = Nat.toDigits 16 n.toNat := by
    have hfront : ([' ', ' '] ++ ((Nat.toDigits 10 v.toNat).leftpad 3 ' ' ++ [':', ' ', '0', 'x'])).length
        = 9 := by
      rw [List.length_append, List.length_append, hcolumn]
      rfl
    rw [hwords, ← List.append_assoc, ← List.append_assoc, List.append_assoc _ _ [':', ' ', '0', 'x'],
      List.drop_left' hfront]
  unfold readLine
  rw [hvector, hcount, Text.numeral_leftpad (by decide), Text.numeral_toDigits (by decide) (by decide),
    Text.numeral_toDigits (by decide) (by decide)]

/-- A vector is found among some that were seen if it is one of them. -/
theorem lookup_seen (c : Counts) (w : UInt8) (vs : List UInt8) :
    (((((vs.map fun v => (v, c.get v)).filter fun p => p.2 ≠ 0).map fun p => words p.1 p.2).map
        readLine).lookup w.toNat).getD 0 = if w ∈ vs then (c.get w).toNat else 0 := by
  induction vs with
  | nil => rfl
  | cons v rest ih =>
    rw [List.map_cons, List.filter_cons]
    by_cases hzero : c.get v = 0
    · rw [if_neg (by simpa using hzero), ih]
      by_cases e : w = v
      · subst e
        simp [hzero]
      · simp [e]
    · rw [if_pos (by simpa using hzero), List.map_cons, List.map_cons, readLine_words, List.lookup_cons]
      by_cases e : w = v
      · subst e
        simp
      · have hne : (w.toNat == v.toNat) = false := by
          simpa using fun h => e (UInt8.toNat_inj.mp h)
        rw [hne]
        dsimp only
        rw [ih]
        simp [e]

/-- **Every count is read as it was written**, and as zero if there is no line for it. -/
theorem readCount_lines (c : Counts) (w : UInt8) : readCount w c.lines = (c.get w).toNat := by
  unfold readCount lines nonzero
  rw [List.drop_one, List.tail_cons, lookup_seen, if_pos (mem_vectors w)]

end Interrupt.Counts

end GuestExit
