import AgentCore.Foundation.Bytes
import AgentCore.Foundation.Run
import Mathlib.Data.List.TakeDrop

/-!
# The output of commands

`handle_exec` and `execute` read the two pipes of a child in threads of their own
(`drain_reader`, the same in `workspace.rs` and `hcr/process.rs`). A thread collects what it reads in
a local buffer that never grows beyond the limit, and gives it to the caller when it ends. The caller
takes the two shared buffers when the child has ended; it does not wait for the threads.
-/

namespace AgentCore.CodingHarness

open Foundation

variable {max : Nat} {output : Bytes}

/-- `from_utf8_lossy`: what it makes of invalid bytes is not used, only that bytes give a text. -/
structure LossyUtf8 where
  decode : Bytes → String
  decode_nil : decode [] = ""
  decode_ne : ∀ bytes, bytes ≠ [] → decode bytes ≠ ""

/-! ## Truncation -/

def trunc (lossy : LossyUtf8) (data : Bytes) (max : Nat) : Option String :=
  if data.length ≤ max then some (lossy.decode data)
  else
    let s := lossy.decode (data.take max)
    (charsOfBytes s.toList (s.utf8ByteSize - 3)).map fun cs => String.ofList (cs ++ "...".toList)

structure Report where
  text : Option String
  truncated : Bool
  size : Nat
deriving DecidableEq

def report (lossy : LossyUtf8) (max : Nat) (all : Bytes) : Report where
  text := trunc lossy all max
  truncated := decide (max < all.length)
  size := all.length

/-! ## Threads -/

inductive Stream
  | stdout
  | stderr
deriving DecidableEq

variable {i : Stream}

inductive Drain
  | checking (gathered : Bytes)
  | reading (gathered : Bytes)
  | draining (gathered : Bytes)
  | publishing (gathered : Bytes)
  | ended
deriving DecidableEq

/-- One stream: what the child has still to write, what is in the pipe, the thread and the buffer it
shares with the caller, and what the caller has reported. -/
structure Lane where
  toWrite : Bytes
  pipe : Bytes := []
  thread : Drain := .checking []
  shared : Bytes := []
  reported : Option Report := none

variable {l : Lane}

structure Exec where
  lane : Stream → Lane
  exited : Bool := false
  done : Bool := false

variable {s : Exec} {lossy : LossyUtf8} {exited : Bool}

def Exec.start (output : Stream → Bytes) : Exec where
  lane i := { toWrite := output i }

def appendCapped (max : Nat) (gathered chunk : Bytes) : Bytes :=
  if gathered.length < max then gathered ++ chunk.take (max - gathered.length) else gathered

/-- One step of a thread, which reads `n` bytes if it reads. A read waits for bytes or for the end
of the stream, and `read_to_end` for its end. -/
def drainStep (max : Nat) (exited done : Bool) (n : Nat) (l : Lane) : Lane :=
  match l.thread with
  | .checking gathered =>
    { l with thread := if done then .draining gathered else .reading gathered }
  | .reading gathered =>
    if l.pipe = [] then
      if exited then { l with thread := .publishing gathered } else l
    else if 0 < n ∧ n ≤ 65536 then
      { l with
        pipe := l.pipe.drop n
        thread := .checking (appendCapped max gathered (l.pipe.take n)) }
    else l
  | .draining gathered =>
    if exited then
      { l with pipe := [], thread := .publishing (appendCapped max gathered l.pipe) }
    else l
  | .publishing gathered => { l with shared := l.shared ++ gathered, thread := .ended }
  | .ended => l

inductive ExecEvent
  | write (i : Stream) (n : Nat)
  | exit
  | drain (i : Stream) (n : Nat)
  | seesExit
  | collect (i : Stream)

def Exec.update (s : Exec) (i : Stream) (l : Lane) : Exec :=
  { s with lane := Function.update s.lane i l }

def Exec.Collects (s : Exec) (i : Stream) : Prop :=
  s.done = true ∧ (s.lane i).reported = none ∧
    (i = .stderr → (s.lane .stdout).reported.isSome = true)

instance (s : Exec) (i : Stream) : Decidable (s.Collects i) := by
  unfold Exec.Collects
  infer_instance

def Exec.step (lossy : LossyUtf8) (max : Nat) (s : Exec) : ExecEvent → Exec
  | .write i n =>
    if s.exited then s
    else s.update i { s.lane i with
      toWrite := (s.lane i).toWrite.drop n
      pipe := (s.lane i).pipe ++ (s.lane i).toWrite.take n }
  | .exit =>
    if (s.lane .stdout).toWrite = [] ∧ (s.lane .stderr).toWrite = [] then
      { s with exited := true }
    else s
  | .drain i n => s.update i (drainStep max s.exited s.done n (s.lane i))
  | .seesExit => if s.exited then { s with done := true } else s
  | .collect i =>
    if s.Collects i then
      s.update i { s.lane i with reported := some (report lossy max (s.lane i).shared) }
    else s

/-! ## What the threads hold -/

lemma appendCapped_take (max : Nat) (read chunk : Bytes) :
    appendCapped max (read.take max) chunk = (read ++ chunk).take max := by
  unfold appendCapped
  rw [List.take_append, List.length_take]
  split
  · rename_i hroom
    have hshort : read.length < max := by omega
    rw [Nat.min_eq_right (Nat.le_of_lt hshort)]
  · rename_i hfull
    have hzero : max - read.length = 0 := by omega
    rw [hzero, List.take_zero, List.append_nil]

def Drain.Holds (max : Nat) (read left shared : Bytes) : Drain → Prop
  | .checking gathered => gathered = read.take max ∧ shared = []
  | .reading gathered => gathered = read.take max ∧ shared = []
  | .draining gathered => gathered = read.take max ∧ shared = []
  | .publishing gathered => gathered = read.take max ∧ shared = [] ∧ left = []
  | .ended => shared = read.take max ∧ left = []

structure Lane.Sound (max : Nat) (exited : Bool) (output : Bytes) (l : Lane) : Prop where
  conserved : ∃ read, read ++ (l.pipe ++ l.toWrite) = output ∧
    l.thread.Holds max read (l.pipe ++ l.toWrite) l.shared
  written : exited = true → l.toWrite = []

lemma Lane.Sound.start (max : Nat) (output : Bytes) :
    Lane.Sound max false output { toWrite := output } :=
  ⟨⟨[], rfl, List.take_nil.symm, rfl⟩, nofun⟩

lemma Lane.Sound.write (h : l.Sound max false output) (n : Nat) : Lane.Sound max false output
      { l with toWrite := l.toWrite.drop n, pipe := l.pipe ++ l.toWrite.take n } := by
  obtain ⟨read, hall, hholds⟩ := h.conserved
  have hleft : (l.pipe ++ l.toWrite.take n) ++ l.toWrite.drop n = l.pipe ++ l.toWrite := by
    rw [List.append_assoc, List.take_append_drop]
  refine ⟨⟨read, ?_, ?_⟩, nofun⟩
  · rw [hleft]
    exact hall
  · rw [hleft]
    exact hholds

lemma Lane.Sound.drainStep (h : l.Sound max exited output) (done : Bool)
    (n : Nat) : (CodingHarness.drainStep max exited done n l).Sound max exited output := by
  obtain ⟨read, hall, hholds⟩ := h.conserved
  unfold CodingHarness.drainStep
  cases hthread : l.thread with
  | checking gathered =>
    rw [hthread] at hholds
    refine ⟨⟨read, hall, ?_⟩, h.written⟩
    dsimp only
    split
    · exact hholds
    · exact hholds
  | reading gathered =>
    rw [hthread] at hholds
    dsimp only
    split
    · rename_i hempty
      split
      · rename_i hexited
        -- The end of the stream: nothing is left.
        refine ⟨⟨read, hall, hholds.1, hholds.2, ?_⟩, h.written⟩
        rw [hempty, h.written hexited]
        rfl
      · exact h
    · split
      · refine ⟨⟨read ++ l.pipe.take n, ?_, ?_, hholds.2⟩, h.written⟩
        · rw [List.append_assoc, ← List.append_assoc (l.pipe.take n), List.take_append_drop]
          exact hall
        · rw [hholds.1, appendCapped_take]
      · exact h
  | draining gathered =>
    rw [hthread] at hholds
    dsimp only
    split
    · rename_i hexited
      have hwritten := h.written hexited
      refine ⟨⟨read ++ l.pipe, ?_, ?_, hholds.2, ?_⟩, h.written⟩
      · rw [List.nil_append, List.append_assoc]
        exact hall
      · rw [hholds.1, appendCapped_take]
      · rw [List.nil_append, hwritten]
    · exact h
  | publishing gathered =>
    rw [hthread] at hholds
    refine ⟨⟨read, hall, ?_, hholds.2.2⟩, h.written⟩
    dsimp only
    rw [hholds.2.1, hholds.1, List.nil_append]
  | ended => exact h

/-! ## What is reported -/

/-- The report that the output should have: its text, cut at the limit with a mark, and a flag that
says whether it is cut. -/
structure Complete (lossy : LossyUtf8) (max : Nat) (output : Bytes) (r : Report) : Prop where
  truncated : r.truncated = decide (max < output.length)
  whole : output.length ≤ max → r.text = some (lossy.decode output)
  cut : max < output.length → ∃ kept, kept <+: (lossy.decode (output.take max)).toList ∧
    r.text = some (String.ofList (kept ++ "...".toList))

lemma report_of_short (lossy : LossyUtf8) (h : all.length ≤ max) :
    report lossy max all = ⟨some (lossy.decode all), false, all.length⟩ := by
  rw [report, trunc, if_pos h, decide_eq_false (Nat.not_lt.mpr h)]

lemma complete_iff : Complete lossy max output ⟨some text, false, size⟩ ↔
      output.length ≤ max ∧ text = lossy.decode output := by
  constructor
  · intro h
    have hshort : output.length ≤ max := Nat.not_lt.mp (of_decide_eq_false h.truncated.symm)
    exact ⟨hshort, Option.some.inj (h.whole hshort)⟩
  · rintro ⟨hshort, rfl⟩
    exact ⟨(decide_eq_false (Nat.not_lt.mpr hshort)).symm, fun _ => rfl,
      fun hlong => absurd hlong (Nat.not_lt.mpr hshort)⟩

lemma Lane.Sound.complete_iff (h : l.Sound max exited output) :
    Complete lossy max output (report lossy max l.shared) ↔
      output.length ≤ max ∧ (l.thread = .ended ∨ output = []) := by
  obtain ⟨read, hall, hholds⟩ := h.conserved
  by_cases hended : l.thread = .ended
  · rw [hended] at hholds
    have hshared : l.shared = output.take max := by
      rw [hholds.1, ← hall, hholds.2, List.append_nil]
    rw [hshared, report_of_short lossy (List.length_take_le max output), CodingHarness.complete_iff]
    refine and_congr_right fun hshort => ?_
    rw [List.take_of_length_le hshort]
    exact iff_of_true rfl (.inl hended)
  · have hshared : l.shared = [] := by
      cases hthread : l.thread with
      | ended => exact absurd hthread hended
      | publishing gathered => rw [hthread] at hholds; exact hholds.2.1
      | checking gathered | reading gathered | draining gathered =>
        rw [hthread] at hholds; exact hholds.2
    rw [hshared, report_of_short lossy (Nat.zero_le max), CodingHarness.complete_iff,
      lossy.decode_nil]
    refine and_congr_right fun _ => ?_
    constructor
    · intro hempty
      by_contra hne
      exact lossy.decode_ne output (fun h => hne (.inr h)) hempty.symm
    · rintro (h | rfl)
      · exact absurd h hended
      · exact lossy.decode_nil.symm

/-! ## Runs -/

section Runs

variable (lossy : LossyUtf8) (max : Nat) (output : Stream → Bytes)

structure Exec.Good (s : Exec) : Prop where
  sound : ∀ i, (s.lane i).Sound max s.exited (output i)
  complete : ∀ i r, (s.lane i).reported = some r → Complete lossy max (output i) r

/-- When the caller takes a buffer, the output fits the limit and the thread has ended. -/
def OnTime (s : Exec) (event : ExecEvent) : Prop :=
  ∀ i, event = .collect i → s.Collects i →
    (output i).length ≤ max ∧ ((s.lane i).thread = .ended ∨ output i = [])

variable {lossy max output}

lemma Exec.good_start : (Exec.start output).Good lossy max output :=
  ⟨fun i => Lane.Sound.start max (output i), nofun⟩

lemma sound_update (h : ∀ j, (s.lane j).Sound max s.exited (output j))
    (hl : l.Sound max s.exited (output i)) (j : Stream) :
    ((s.update i l).lane j).Sound max s.exited (output j) := by
  by_cases hij : j = i
  · subst hij
    simpa only [Exec.update, Function.update_self] using hl
  · simpa only [Exec.update, Function.update_of_ne hij] using h j

lemma sound_step (h : ∀ i, (s.lane i).Sound max s.exited (output i)) (event : ExecEvent)
    (i : Stream) :
    ((s.step lossy max event).lane i).Sound max (s.step lossy max event).exited (output i) := by
  cases event with
  | write j n =>
    unfold Exec.step
    dsimp only
    split
    · exact h i
    · rename_i hrunning
      have hexited : s.exited = false := Bool.eq_false_of_not_eq_true hrunning
      have hwrite := (hexited ▸ h j : (s.lane j).Sound max false (output j)).write n
      exact sound_update h (hexited ▸ hwrite) i
  | exit =>
    unfold Exec.step
    dsimp only
    split
    · rename_i hwritten
      refine ⟨(h i).conserved, fun _ => ?_⟩
      cases i with
      | stdout => exact hwritten.1
      | stderr => exact hwritten.2
    · exact h i
  | drain j n => exact sound_update h ((h j).drainStep s.done n) i
  | seesExit =>
    unfold Exec.step
    dsimp only
    split <;> exact h i
  | collect j =>
    unfold Exec.step
    dsimp only
    split
    · have hlane : Lane.Sound max s.exited (output j)
          { s.lane j with reported := some (report lossy max (s.lane j).shared) } :=
        ⟨(h j).conserved, (h j).written⟩
      exact sound_update h hlane i
    · exact h i

lemma reported_drainStep (exited done : Bool) (n : Nat) (l : Lane) :
    (drainStep max exited done n l).reported = l.reported := by
  unfold drainStep
  cases l.thread with
  | reading gathered =>
    dsimp only
    split
    · split <;> rfl
    · split <;> rfl
  | draining gathered =>
    dsimp only
    split <;> rfl
  | checking gathered => rfl
  | publishing gathered => rfl
  | ended => rfl

lemma reported_step (h : ¬ (event = .collect i ∧ s.Collects i)) :
    ((s.step lossy max event).lane i).reported = (s.lane i).reported := by
  cases event with
  | write j n =>
    unfold Exec.step
    dsimp only
    split
    · rfl
    · by_cases hij : i = j
      · subst hij
        simp only [Exec.update, Function.update_self]
      · simp only [Exec.update, Function.update_of_ne hij]
  | exit | seesExit =>
    unfold Exec.step
    dsimp only
    split <;> rfl
  | drain j n =>
    by_cases hij : i = j
    · subst hij
      simp only [Exec.step, Exec.update, Function.update_self, reported_drainStep]
    · simp only [Exec.step, Exec.update, Function.update_of_ne hij]
  | collect j =>
    unfold Exec.step
    dsimp only
    split
    · rename_i hcollects
      have hij : i ≠ j := by
        rintro rfl
        exact h ⟨rfl, hcollects⟩
      simp only [Exec.update, Function.update_of_ne hij]
    · rfl

lemma reported_collect (h : s.Collects i) : ((s.step lossy max (.collect i)).lane i).reported =
      some (report lossy max (s.lane i).shared) := by
  rw [Exec.step, if_pos h]
  simp only [Exec.update, Function.update_self]

lemma Exec.good_step_iff (h : s.Good lossy max output) (event : ExecEvent) :
    (s.step lossy max event).Good lossy max output ↔ OnTime max output s event := by
  constructor
  · intro hgood i hi hcollects
    subst hi
    exact (h.sound i).complete_iff.mp (hgood.complete i _ (reported_collect hcollects))
  · intro hontime
    refine ⟨sound_step h.sound event, fun i r hr => ?_⟩
    by_cases hcollect : event = .collect i ∧ s.Collects i
    · obtain ⟨rfl, hcollects⟩ := hcollect
      rw [reported_collect hcollects, Option.some.injEq] at hr
      rw [← hr]
      exact (h.sound i).complete_iff.mpr (hontime i rfl hcollects)
    · rw [reported_step hcollect] at hr
      exact h.complete i r hr

/-- In every scheduling of the child, the two threads and the caller, the reports are complete
exactly if, whenever the caller takes a buffer, the output fits the limit and the thread has ended
(or there is no output). -/
theorem output_complete_iff (lossy : LossyUtf8) (max : Nat) (output : Stream → Bytes)
    (events : List ExecEvent) :
    (∀ before after, events = before ++ after → ∀ i r,
      ((run (Exec.step lossy max) (Exec.start output) before).lane i).reported = some r →
        Complete lossy max (output i) r) ↔
    Along (Exec.step lossy max) (OnTime max output) (Exec.start output) events := by
  -- A state that is not good after a good one has a report that is not complete.
  have hgood : (∀ before after, events = before ++ after →
      (run (Exec.step lossy max) (Exec.start output) before).Good lossy max output) ↔
      Along (Exec.step lossy max) (OnTime max output) (Exec.start output) events :=
    forall_prefix_iff_along (I := Exec.Good lossy max output)
      (fun _ event h => Exec.good_step_iff h event) Exec.good_start
  rw [← hgood]
  constructor
  · intro hcomplete before after heq
    have hsound : ∀ i, ((run (Exec.step lossy max) (Exec.start output) before).lane i).Sound max
        (run (Exec.step lossy max) (Exec.start output) before).exited (output i) :=
      run_invariant (I := fun s : Exec => ∀ i, (s.lane i).Sound max s.exited (output i))
        (fun _ event hs => sound_step hs event) before (fun i => Lane.Sound.start max (output i))
    exact ⟨hsound, hcomplete before after heq⟩
  · intro h before after heq
    exact (h before after heq).complete

end Runs

/-! ### Output that is lost, and output that is cut without a word -/

def latin : LossyUtf8 where
  decode bytes := String.ofList (bytes.map fun b => Char.ofNat b.toNat)
  decode_nil := rfl
  decode_ne bytes h he := by
    have hlist := congrArg String.toList he
    rw [String.toList_ofList] at hlist
    exact h (List.map_eq_nil_iff.mp hlist)

def hello : Stream → Bytes
  | .stdout => [104, 105]
  | .stderr => []

/-- The child writes two bytes and ends, and the caller is faster than the thread. -/
def hastyCaller : List ExecEvent :=
  [.write .stdout 2, .exit, .seesExit, .collect .stdout, .collect .stderr]

def patientCaller : List ExecEvent :=
  [.write .stdout 2, .exit, .drain .stdout 0, .drain .stdout 2, .drain .stdout 0, .drain .stdout 0,
    .drain .stdout 0, .seesExit, .collect .stdout, .collect .stderr]

/-- With a limit of ten bytes the hasty caller reports no output; with a limit of one byte even the
patient one reports one byte and no truncation. -/
theorem output_lost_or_cut :
    ((run (Exec.step latin 10) (Exec.start hello) hastyCaller).lane .stdout).reported =
        some ⟨some "", false, 0⟩ ∧
      ((run (Exec.step latin 1) (Exec.start hello) patientCaller).lane .stdout).reported =
        some ⟨some "h", false, 1⟩ := by
  decide +kernel

end AgentCore.CodingHarness
