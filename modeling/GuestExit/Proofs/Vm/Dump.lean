import GuestExit.Proofs.Interrupt.Accounting
import GuestExit.Proofs.Text.Lines
import GuestExit.Vm.State

/-!
# The lines of a dump

A dump is the text of the records, cut into lines. The text was written line by line to begin
with, so a dump tells what was written, and there is nothing to be found out about cutting: the
records of control register accesses have a title and three sections (`ExitLog.lines`), the
counts a title and a line for each vector seen (`Counts.lines`). Numbers are all that varies in
a line, and no number has a line feed in it.
-/

namespace GuestExit

open Text (Printable hex hexWord column linesOf)

namespace ControlRegister

/-- What the line of a record says. -/
def ExitRecord.words (r : ExitRecord) : String :=
  "    value=" ++ hexWord r.value.toNat ++ " shadow=" ++ hexWord r.shadow.toNat

theorem ExitRecord.join_pieces (r : ExitRecord) : String.join r.pieces = r.words ++ "\n" := by
  simp [pieces, words, String.append_assoc]

theorem ExitRecord.printable_words (r : ExitRecord) : Printable r.words :=
  (((Printable.append (by decide) (Text.printable_hexWord _)).append (by decide)).append
    (Text.printable_hexWord _))

namespace ExitLog

/-- The heading of a register, which gives the number of records. -/
def heading (name : String) (records : Array ExitRecord) : String :=
  "  " ++ name ++ " (" ++ toString records.size ++ " exits)"

/-- The lines about a register: its heading, and a line for each record, oldest first. -/
def sectionLines (name : String) (records : Array ExitRecord) : List String :=
  heading name records :: records.toList.map ExitRecord.words

/-- The lines of the log. -/
def lines (log : ExitLog) : List String :=
  "Control register exit log"
    :: (sectionLines "CR0" log.cr0 ++ sectionLines "CR3" log.cr3 ++ sectionLines "CR4" log.cr4)

theorem join_sectionPieces (name : String) (records : Array ExitRecord) :
    String.join (sectionPieces name records)
      = String.join ((sectionLines name records).map (· ++ "\n")) := by
  have hheading : String.join (headingPieces name records) = heading name records ++ "\n" := by
    -- the last piece of the heading has the line feed in it
    simp only [headingPieces, heading, String.join_cons, String.join_nil, String.append_assoc]
    rfl
  unfold sectionPieces sectionLines
  rw [String.join_append, hheading, Text.join_flatMap, List.map_cons, String.join_cons,
    List.map_map]
  exact congrArg _ (congrArg String.join (List.map_congr_left fun r _ => r.join_pieces))

/-- A sink without a bound takes all of the log. -/
theorem writeTo_unbounded (log : ExitLog) (held : String) :
    log.writeTo { text := held } = .complete (held ++ log.text) :=
  (log.writeTo_eq _).trans (Text.Sink.write_unbounded held log.pieces)

theorem writeTo_empty (log : ExitLog) : log.writeTo {} = .complete log.text :=
  (log.writeTo_eq _).trans (Text.Sink.write_empty log.pieces)

/-- The log is written line by line. -/
theorem text_eq (log : ExitLog) : log.text = String.join (log.lines.map (· ++ "\n")) := by
  unfold text pieces lines named
  simp only [String.join_append, List.flatMap_cons, List.flatMap_nil, join_sectionPieces,
    List.map_cons, List.map_append, String.join_cons, String.join_nil, String.append_assoc,
    String.append_empty]
  -- the line feed of the title is in its piece
  rfl

theorem printable_sectionLines {name : String} (h : Printable name) (records : Array ExitRecord) :
    ∀ line ∈ sectionLines name records, Printable line := by
  intro line hline
  rcases List.mem_cons.mp hline with rfl | hrecord
  · exact ((((Printable.append (by decide) h).append (by decide)).append
      (Text.printable_toString _)).append (by decide))
  · obtain ⟨r, -, rfl⟩ := List.mem_map.mp hrecord
    exact r.printable_words

theorem printable_lines (log : ExitLog) : ∀ line ∈ log.lines, Printable line := by
  unfold lines
  simp only [List.forall_mem_cons, List.forall_mem_append]
  exact ⟨by decide, ⟨printable_sectionLines (by decide) _, printable_sectionLines (by decide) _⟩,
    printable_sectionLines (by decide) _⟩

/-- **The text of the log has the lines it was written in.** -/
theorem linesOf_text (log : ExitLog) : linesOf log.text = log.lines := by
  rw [text_eq]
  exact Text.linesOf_join fun line h => (log.printable_lines line h).oneLine

theorem words_mem_lines {log : ExitLog} {reg : ControlReg} {r : ExitRecord}
    (h : r ∈ (log.get reg).toList) : r.words ∈ log.lines := by
  have hsection : ∀ name records, r ∈ records.toList → r.words ∈ sectionLines name records :=
    fun _ _ hr => List.mem_cons_of_mem _ (List.mem_map_of_mem hr)
  refine List.mem_cons_of_mem _ ?_
  cases reg with
  | cr0 => exact List.mem_append_left _ (List.mem_append_left _ (hsection _ _ h))
  | cr3 => exact List.mem_append_left _ (List.mem_append_right _ (hsection _ _ h))
  | cr4 => exact List.mem_append_right _ (hsection _ _ h)
  | cr2 | cr8 => exact absurd h List.not_mem_nil

end ExitLog

end ControlRegister

namespace Interrupt.Counts

/-- What the line of a vector and its count says. -/
def words (vector : UInt8) (count : UInt64) : String :=
  "  " ++ column 3 vector.toNat ++ ": " ++ hex count.toNat

/-- The lines of the counts: a title, and a line for each vector seen, ascending. -/
def lines (c : Counts) : List String :=
  "External interrupt counts" :: c.nonzero.map fun p => words p.1 p.2

theorem join_linePieces (vector : UInt8) (count : UInt64) :
    String.join (linePieces vector count) = words vector count ++ "\n" := by
  simp [linePieces, words, String.append_assoc]

/-- A sink without a bound takes all of the counts. -/
theorem writeTo_unbounded (c : Counts) (held : String) :
    c.writeTo { text := held } = .complete (held ++ c.text) :=
  (c.writeTo_eq _).trans (Text.Sink.write_unbounded held c.pieces)

theorem writeTo_empty (c : Counts) : c.writeTo {} = .complete c.text :=
  (c.writeTo_eq _).trans (Text.Sink.write_empty c.pieces)

/-- The counts are written line by line. -/
theorem text_eq (c : Counts) : c.text = String.join (c.lines.map (· ++ "\n")) := by
  unfold text pieces lines
  have hlines : c.nonzero.map (fun p => String.join (linePieces p.1 p.2))
      = (c.nonzero.map fun p => words p.1 p.2).map (· ++ "\n") := by
    rw [List.map_map]
    exact List.map_congr_left fun (p : UInt8 × UInt64) _ => join_linePieces p.1 p.2
  rw [String.join_append, Text.join_flatMap, hlines, List.map_cons, String.join_cons,
    String.join_cons, String.join_nil, String.append_empty]
  rfl

theorem printable_lines (c : Counts) : ∀ line ∈ c.lines, Printable line := by
  intro line hline
  rcases List.mem_cons.mp hline with rfl | hcount
  · decide
  · obtain ⟨p, -, rfl⟩ := List.mem_map.mp hcount
    exact (((Printable.append (by decide) (Text.printable_column _ _)).append (by decide)).append
      (Text.printable_hex _))

/-- **The text of the counts has the lines it was written in.** -/
theorem linesOf_text (c : Counts) : linesOf c.text = c.lines := by
  rw [text_eq]
  exact Text.linesOf_join fun line h => (c.printable_lines line h).oneLine

theorem words_mem_lines {c : Counts} {w : UInt8} (h : c.get w ≠ 0) : words w (c.get w) ∈ c.lines := by
  have hseen : (w, c.get w) ∈ c.nonzero :=
    List.mem_filter.mpr ⟨List.mem_map.mpr ⟨w, mem_vectors w, rfl⟩, by simpa using h⟩
  exact List.mem_cons_of_mem _ (List.mem_map.mpr ⟨_, hseen, rfl⟩)

end Interrupt.Counts

variable {σ : Type}

theorem ControlRegister.Virtualizer.dump_eq (v : Virtualizer σ) :
    v.dump = v.log.lines.map .recorded := by
  unfold dump
  rw [v.log.writeTo_empty, Notice.dump, v.log.linesOf_text]

theorem Interrupt.Virtualizer.dump_eq (v : Virtualizer σ) :
    v.dump = v.counts.lines.map .recorded := by
  unfold dump
  rw [v.counts.writeTo_empty, Notice.dump, v.counts.linesOf_text]

end GuestExit
