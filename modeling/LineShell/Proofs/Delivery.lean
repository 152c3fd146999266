import LineShell.Execute

/-!
# What a sink takes

A command hands bytes to its sinks; the sinks may keep them back and send them when they are flushed
or closed. This file says what has arrived in the end.

* `Files.receive` is one write that has arrived, `Shell.deliver` the same for a sink of any kind;
* `Sink.Refuses`: only the device that is always full turns bytes away;
* `Job.fst_finish_writes`: two writes, the flushes and the closes together deliver each sink its
  bytes, once, whatever the other one does with its own. A sink that keeps its bytes back comes
  after one that does not, and the output comes first otherwise;
* `Job.fault_finish_writes`: this ends in a fault exactly when one of the sinks refuses its bytes;
* `Shell.Keeps` is the frame: sinks touch the streams and the files.
-/

namespace LineShell

/-! ## 1. Bytes that have arrived -/

/-- The tree after the object of a handle has taken bytes: at the end of the file when the handle
    appends, else at its offset. A device keeps nothing, and no bytes are no write. -/
def Files.receive (files : Files) (h : Handle) (data : Bytes) : Files :=
  if data.isEmpty then files
  else
    match h.object with
    | .device _ => files
    | .file l =>
      match files.get? l with
      | some (.file f) =>
        let offset := if h.append then f.content.length else h.offset
        files.set l (.file { f with content := f.content.patch offset data })
      | _ => files

/-- The shell after a sink has taken bytes. -/
def Shell.deliver (sink : Sink) (data : Bytes) (s : Shell) : Shell :=
  match sink with
  | .stream c => s.put c data
  | .file _ h => s.withFiles (s.machine.files.receive h data)

namespace Sink

/-- What a sink of the file system writes to. -/
def object? : Sink → Option Object
  | .stream _ => none
  | .file _ h => some h.object

/-- What waits in a sink. -/
def waiting : Sink → Bytes
  | .stream _ => []
  | .file _ h => h.waiting

/-- The sink turns the bytes away: it is the device that is always full, and there are some. -/
def Refuses (s : Sink) (data : Bytes) : Prop := s.object? = some (.device .full) ∧ data ≠ []

instance (s : Sink) (data : Bytes) : Decidable (s.Refuses data) :=
  inferInstanceAs (Decidable (_ ∧ _))

/-- A sink that nothing waits in keeps the bytes of one write back, if they fit. -/
def keeps (data : Bytes) : Sink → Bool
  | .stream _ => false
  | .file .. => decide (data.length ≤ bufferSize)

/-- The sink with bytes waiting in it. -/
def keeping (data : Bytes) : Sink → Sink
  | .stream c => .stream c
  | .file name h => .file name { h with waiting := data }

/-- The sink refuses the bytes of one write at once, as they do not fit into its buffer. -/
def Stops (s : Sink) (data : Bytes) : Prop := s.Refuses data ∧ bufferSize < data.length

instance (s : Sink) (data : Bytes) : Decidable (s.Stops data) :=
  inferInstanceAs (Decidable (_ ∧ _))

/-- The sink has been emptied: nothing waits in it, and it writes to the same object. -/
structure Emptied (old new : Sink) : Prop where
  waiting : new.waiting = []
  object : new.object? = old.object?

theorem stops_iff {s : Sink} {data : Bytes} :
    s.Stops data ↔ s.keeps data = false ∧ s.Refuses data := by
  cases s with
  | stream c => exact ⟨fun h => absurd h.1.1 nofun, fun h => absurd h.2.1 nofun⟩
  | file name h =>
    rw [Stops, keeps, decide_eq_false_iff_not, Nat.not_le]
    exact And.comm

theorem object?_keeping (data : Bytes) (s : Sink) : (s.keeping data).object? = s.object? := by
  cases s <;> rfl

theorem waiting_keeping {data : Bytes} {s : Sink} (h : s.keeps data = true) :
    (s.keeping data).waiting = data := by
  cases s with
  | stream c => cases h
  | file name h => rfl

end Sink

@[simp] theorem Shell.deliver_nil (sink : Sink) (s : Shell) : s.deliver sink [] = s := by
  cases sink with
  | stream c => cases c <;> simp [deliver, put]
  | file name h => rfl

/-- What waits in a sink is delivered as if it had not waited. -/
theorem Shell.deliver_keeping (sink : Sink) (kept data : Bytes) (s : Shell) :
    s.deliver (sink.keeping kept) data = s.deliver sink data := by
  cases sink <;> rfl

/-- Bytes that a sink refuses leave no trace. -/
theorem Shell.deliver_refused {sink : Sink} {data : Bytes} (h : sink.Refuses data) (s : Shell) :
    s.deliver sink data = s := by
  obtain ⟨hfull, -⟩ := h
  cases sink with
  | stream c => cases hfull
  | file name h =>
    have hobject : h.object = .device .full := Option.some.inj hfull
    have hreceive : s.machine.files.receive h data = s.machine.files := by
      unfold Files.receive
      rw [hobject]
      split <;> rfl
    rw [deliver, hreceive]
    rfl

/-- The sink has sent what it can: it writes to the same object, and what still waits in it leaves
    no trace. -/
structure Sink.Spent (old new : Sink) : Prop where
  object : new.object? = old.object?
  silent : ∀ s : Shell, s.deliver new new.waiting = s

theorem Sink.Emptied.spent {old new : Sink} (h : old.Emptied new) : old.Spent new where
  object := h.object
  silent s := by rw [h.waiting, Shell.deliver_nil]

/-! ## 2. Handles -/

/-- Bytes that are sent arrive, unless the device is full. -/
theorem Files.send_eq_ok (files : Files) {h : Handle} {data : Bytes} (hd : data ≠ [])
    (hf : h.object ≠ .device .full) :
    ∃ h', files.send h data = .ok (files.receive h data, h') ∧ h'.waiting = h.waiting ∧
      h'.object = h.object := by
  obtain ⟨object, append, offset, waiting⟩ := h
  have he : data.isEmpty = false := by simpa using hd
  cases object with
  | file l =>
    simp only [send, receive, he, Bool.false_eq_true, if_false]
    rcases files.get? l with _ | _ | _ | _ | _ <;> exact ⟨_, rfl, rfl, rfl⟩
  | device d =>
    cases d with
    | null => exact ⟨_, by simp [send, receive], rfl, rfl⟩
    | full => exact absurd rfl hf

/-- The full device takes no byte. -/
theorem Files.send_full {files : Files} {h : Handle} {data : Bytes} (hd : data ≠ [])
    (hf : h.object = .device .full) : files.send h data = .error .noSpace := by
  have he : data.isEmpty = false := by simpa using hd
  simp [send, hf, he]

/-! ## 3. One sink of a job -/

namespace Job

variable {j : Job} {c : Channel} {data : Bytes}

theorem withSink_sink (c : Channel) (j : Job) : j.withSink c (j.sink c) = j := by cases c <;> rfl

/-- A write that fits waits. -/
theorem write_keeps (hw : (j.sink c).waiting = []) (hk : (j.sink c).keeps data = true) :
    j.write c data = (j.withSink c ((j.sink c).keeping data), none) := by
  cases hs : j.sink c with
  | stream d => rw [hs] at hk; cases hk
  | file name h =>
    rw [hs] at hw hk
    have hw : h.waiting = [] := hw
    have hk : data.length ≤ bufferSize := of_decide_eq_true hk
    unfold write
    split
    · next he =>
      have he : data = [] := by simpa using he
      have hh : ({ h with waiting := data } : Handle) = h := by rw [he, ← hw]
      rw [Sink.keeping, hh, ← hs, withSink_sink]
    · have hwrite : j.shell.machine.files.write h data =
          .ok (j.shell.machine.files, { h with waiting := data }) := by
        have hlen : ¬ bufferSize < data.length := Nat.not_lt.mpr hk
        unfold Files.write Files.flush
        simp [hw, hk, hlen]
      rw [hs]
      dsimp only
      rw [hwrite]
      rfl

/-- A write that does not wait is delivered at once. -/
theorem write_delivers (hw : (j.sink c).waiting = []) (hk : (j.sink c).keeps data = false)
    (hr : ¬ (j.sink c).Refuses data) :
    ∃ sink, j.write c data = ((j.onShell (·.deliver (j.sink c) data)).withSink c sink, none) ∧
      (j.sink c).Emptied sink := by
  cases hs : j.sink c with
  | stream d =>
    refine ⟨.stream d, ?_, rfl, rfl⟩
    unfold write
    rw [← hs]
    split
    · next he =>
      have he : data = [] := by simpa using he
      subst he
      rw [hs, onShell, Shell.deliver_nil, ← hs, withSink_sink]
    · rw [hs]
      show (j.onShell (·.put d data), none) =
        ((j.onShell (·.put d data)).withSink c (.stream d), none)
      have hsame : (j.onShell (·.put d data)).sink c = .stream d := by rw [← hs]; cases c <;> rfl
      rw [← hsame, withSink_sink]
  | file name h =>
    rw [hs] at hw hk hr
    have hw : h.waiting = [] := hw
    have hk : bufferSize < data.length := Nat.lt_of_not_le (of_decide_eq_false hk)
    have hd : data ≠ [] := by rintro rfl; exact absurd hk (Nat.not_lt_zero _)
    have hf : h.object ≠ .device .full := fun hf => hr ⟨by rw [Sink.object?, hf], hd⟩
    obtain ⟨h', hsend, hwait, hobj⟩ := Files.send_eq_ok j.shell.machine.files hd hf
    refine ⟨.file name h', ?_, hwait.trans hw, congrArg some hobj⟩
    have hwrite : j.shell.machine.files.write h data =
        .ok (j.shell.machine.files.receive h data, h') := by
      unfold Files.write Files.flush
      have hle : ¬ data.length ≤ bufferSize := Nat.not_le.mpr hk
      simp [hw, hle, hk, hsend]
    have he : data.isEmpty = false := by simpa using hd
    unfold write
    rw [he, hs]
    simp only [Bool.false_eq_true, if_false, hwrite]
    rfl

/-- A write that a sink turns away leaves the job as it is. -/
theorem write_refused (hw : (j.sink c).waiting = []) (hk : (j.sink c).keeps data = false)
    (hr : (j.sink c).Refuses data) : ∃ f, j.write c data = (j, some f) := by
  cases hs : j.sink c with
  | stream d => rw [hs] at hr; cases hr.1
  | file name h =>
    rw [hs] at hw hk hr
    have hw : h.waiting = [] := hw
    have hk : bufferSize < data.length := Nat.lt_of_not_le (of_decide_eq_false hk)
    have hf : h.object = .device .full := Option.some.inj hr.1
    have hwrite : j.shell.machine.files.write h data = .error .noSpace := by
      unfold Files.write Files.flush
      have hle : ¬ data.length ≤ bufferSize := Nat.not_le.mpr hk
      simp [hw, hle, hk, Files.send_full hr.2 hf]
    have he : data.isEmpty = false := by simpa using hr.2
    refine ⟨Errno.noSpace.fault, ?_⟩
    unfold write
    rw [he, hs]
    simp only [Bool.false_eq_true, if_false, hwrite]

/-- A flush delivers what waits. -/
theorem flush_delivers (hr : ¬ (j.sink c).Refuses (j.sink c).waiting) :
    ∃ sink, j.flush c =
        ((j.onShell (·.deliver (j.sink c) (j.sink c).waiting)).withSink c sink, none) ∧
      (j.sink c).Emptied sink := by
  cases hs : j.sink c with
  | stream d =>
    refine ⟨.stream d, ?_, rfl, rfl⟩
    have hflush : j.flush c = (j, none) := by rw [flush, hs]
    rw [hflush, Sink.waiting, onShell, Shell.deliver_nil, ← hs, withSink_sink]
  | file name h =>
    rw [hs] at hr
    by_cases hw : h.waiting = []
    · refine ⟨.file name h, ?_, hw, rfl⟩
      rw [flush, hs, Sink.waiting, hw, onShell, Shell.deliver_nil]
      simp [Files.flush, hw]
      rfl
    · have hf : h.object ≠ .device .full := fun hf => hr ⟨by rw [Sink.object?, hf], hw⟩
      obtain ⟨h', hsend, -, hobj⟩ := Files.send_eq_ok j.shell.machine.files hw hf
      refine ⟨.file name { h' with waiting := [] }, ?_, rfl, congrArg some hobj⟩
      rw [flush, hs]
      simp [Files.flush, hw, hsend]
      rfl

/-- A flush that a sink turns away leaves the job as it is. -/
theorem flush_refused (hr : (j.sink c).Refuses (j.sink c).waiting) :
    ∃ f, j.flush c = (j, some f) := by
  cases hs : j.sink c with
  | stream d => rw [hs] at hr; cases hr.1
  | file name h =>
    rw [hs] at hr
    have hw : h.waiting ≠ [] := hr.2
    have hf : h.object = .device .full := Option.some.inj hr.1
    refine ⟨Errno.noSpace.fault, ?_⟩
    rw [flush, hs]
    simp [Files.flush, hw, Files.send_full hw hf]

/-- A flush delivers what waits, if the sink takes it. -/
theorem flush_spends (c : Channel) (j : Job) :
    ∃ sink fault, j.flush c =
        ((j.onShell (·.deliver (j.sink c) (j.sink c).waiting)).withSink c sink, fault) ∧
      (j.sink c).Spent sink := by
  by_cases hr : (j.sink c).Refuses (j.sink c).waiting
  · obtain ⟨f, hflush⟩ := flush_refused hr
    refine ⟨j.sink c, some f, ?_, rfl, Shell.deliver_refused hr⟩
    rw [hflush, onShell, Shell.deliver_refused hr, withSink_sink]
  · obtain ⟨sink, hflush, hsink⟩ := flush_delivers hr
    exact ⟨sink, none, hflush, hsink.spent⟩

end Job

/-! ## 4. The end of a job -/

/-- The file behind a sink is closed. -/
def Shell.release (sink : Sink) (s : Shell) : Shell :=
  match sink.object? with
  | none => s
  | some o => s.withMachine (s.machine.use (.closed o))

theorem Sink.Spent.release {old new : Sink} (h : old.Spent new) (s : Shell) :
    s.release new = s.release old := by
  rw [Shell.release, Shell.release, h.object]

/-- The shell after both sinks of a line have taken bytes, the first one before the second where
    the two are one file. A sink that keeps its bytes back comes after one that does not. -/
def Shell.deliverBoth (output : Sink) (o : Bytes) (error : Sink) (e : Bytes) (s : Shell) : Shell :=
  if output.keeps o && !error.keeps e then (s.deliver error e).deliver output o
  else (s.deliver output o).deliver error e

/-- Where one sink keeps nothing of its bytes, the turn of the other one does not matter. -/
theorem Shell.deliverBoth_error {output : Sink} {o : Bytes}
    (h : ∀ s : Shell, s.deliver output o = s) (error : Sink) (e : Bytes) (s : Shell) :
    s.deliverBoth output o error e = s.deliver error e := by
  unfold deliverBoth
  rw [h, h, ite_self]

theorem Shell.deliverBoth_output {error : Sink} {e : Bytes}
    (h : ∀ s : Shell, s.deliver error e = s) (output : Sink) (o : Bytes) (s : Shell) :
    s.deliverBoth output o error e = s.deliver output o := by
  unfold deliverBoth
  rw [h, h, ite_self]

/-- The shell after a line has handed its sinks their bytes and closed them. -/
def Shell.settle (output : Sink) (o : Bytes) (error : Sink) (e : Bytes) (s : Shell) : Shell :=
  ((s.deliverBoth output o error e).release error).release output

namespace Job

variable {s : Shell} {output error : Sink} {o e : Bytes}

/-- Closing a sink that nothing waits in. -/
theorem close_emptied {j : Job} {c : Channel} (hw : (j.sink c).waiting = []) :
    j.close c = (j.onShell (·.release (j.sink c)), none) := by
  cases hs : j.sink c with
  | stream d => rw [close, hs]; rfl
  | file name h =>
    rw [hs] at hw
    have hw : h.waiting = [] := hw
    have hflush : j.flush c = (j, none) := by
      rw [flush, hs]
      simp only [Files.flush, hw, List.isEmpty_nil, if_true]
      have hj : j.withHandle c name j.shell.machine.files h = j := by
        rw [← withSink_sink c j, hs]
        cases c <;> rfl
      rw [hj]
    rw [close, hs]
    simp only [hflush]
    rfl

/-- A close delivers what waits, if the sink takes it, and closes the file in any case. -/
theorem shell_close (c : Channel) (j : Job) :
    (j.close c).1.shell =
      (j.shell.deliver (j.sink c) (j.sink c).waiting).release (j.sink c) := by
  obtain ⟨sink, fault, hflush, -⟩ := flush_spends c j
  cases hs : j.sink c with
  | stream d =>
    rw [close, hs, Sink.waiting, Shell.deliver_nil]
    rfl
  | file name h =>
    rw [close, hs]
    simp only [hflush, hs]
    cases c <;> rfl

theorem output_close_error (j : Job) : (j.close .error).1.output = j.output := by
  obtain ⟨sink, fault, hflush, -⟩ := flush_spends .error j
  unfold close
  split
  · rfl
  · simp only [hflush]
    rfl

/-- **The end of a job, whatever fails in it**: what waits is delivered to the sinks that take it,
    the output first, and both are closed. -/
theorem fst_finish (s : Shell) (output error : Sink) (fault : Option Fault) :
    (finish (⟨s, output, error⟩, fault)).1 =
      (((s.deliver output output.waiting).deliver error error.waiting).release error).release
        output := by
  -- the closes deliver what the flushes have left
  have hclosed : ∀ k : Job, (andThen (flush .output ⟨s, output, error⟩) (flush .error)).1 = k →
      (finish (⟨s, output, error⟩, fault)).1 =
        (((k.shell.deliver k.error k.error.waiting).release k.error).deliver k.output
          k.output.waiting).release k.output := by
    rintro k rfl
    show (close .output (close .error _).1).1.shell = _
    rw [shell_close, sink, output_close_error, shell_close, sink]
    rfl
  obtain ⟨output', f, hflush, ho⟩ := flush_spends .output ⟨s, output, error⟩
  have hflush : flush .output ⟨s, output, error⟩ =
      (⟨s.deliver output output.waiting, output', error⟩, f) := hflush
  have ho : output.Spent output' := ho
  cases f with
  | some f =>
    rw [hclosed ⟨s.deliver output output.waiting, output', error⟩ (by rw [hflush]; rfl)]
    dsimp only
    rw [ho.silent, ho.release]
  | none =>
    obtain ⟨error', f, hflush', he⟩ :=
      flush_spends .error ⟨s.deliver output output.waiting, output', error⟩
    have hflush' : flush .error ⟨s.deliver output output.waiting, output', error⟩ =
        (⟨(s.deliver output output.waiting).deliver error error.waiting, output', error'⟩, f) :=
      hflush'
    have he : error.Spent error' := he
    rw [hclosed ⟨(s.deliver output output.waiting).deliver error error.waiting, output', error'⟩
      (by rw [hflush, andThen, hflush'])]
    dsimp only
    rw [he.silent, he.release, ho.silent, ho.release]

/-- A job in which nothing has failed ends without a fault, if the sinks take what waits in them. -/
theorem snd_finish (ho : ¬ output.Refuses output.waiting) (he : ¬ error.Refuses error.waiting) :
    (finish (⟨s, output, error⟩, none)).2 = none := by
  obtain ⟨output', hflush, ho'⟩ := flush_delivers (j := ⟨s, output, error⟩) (c := .output) ho
  obtain ⟨error', hflush', he'⟩ :=
    flush_delivers (j := ⟨s.deliver output output.waiting, output', error⟩) (c := .error) he
  have h1 : flush .output ⟨s, output, error⟩ =
      (⟨s.deliver output output.waiting, output', error⟩, none) := hflush
  have h2 : flush .error ⟨s.deliver output output.waiting, output', error⟩ =
      (⟨(s.deliver output output.waiting).deliver error error.waiting, output', error'⟩, none) :=
    hflush'
  have h3 (t : Shell) :
      close .error ⟨t, output', error'⟩ = (⟨t.release error', output', error'⟩, none) :=
    close_emptied (c := .error) he'.waiting
  have h4 (t : Shell) :
      close .output ⟨t, output', error'⟩ = (⟨t.release output', output', error'⟩, none) :=
    close_emptied (c := .output) ho'.waiting
  simp only [finish, andAlways, andThen, h1, h2, h3, h4, Option.or_none]

/-- A later fault hides an earlier one, but none is lost. -/
theorem isSome_andAlways (r : Job × Option Fault) (f : Job → Job × Option Fault) :
    (andAlways r f).2.isSome = ((f r.1).2.isSome || r.2.isSome) := by
  simp [andAlways, Option.isSome_or]

theorem isSome_finish (r : Job × Option Fault)
    (h : r.2.isSome = true ∨ (andThen (r.1.flush .output) (flush .error)).2.isSome = true) :
    (finish r).2.isSome = true := by
  have hflushed :
      (andAlways r fun j => andThen (j.flush .output) (flush .error)).2.isSome = true := by
    rw [isSome_andAlways]
    rcases h with h | h <;> simp [h]
  show (andAlways (andAlways _ (close .error)) (close .output)).2.isSome = true
  rw [isSome_andAlways, isSome_andAlways, hflushed, Bool.or_true, Bool.or_true]

/-- What a sink refuses is noticed at the end. -/
theorem isSome_finish_of_refuses
    (h : output.Refuses output.waiting ∨ error.Refuses error.waiting) :
    (finish (⟨s, output, error⟩, none)).2.isSome = true := by
  refine isSome_finish _ (.inr ?_)
  by_cases ho : output.Refuses output.waiting
  · obtain ⟨f, hf⟩ := flush_refused (j := ⟨s, output, error⟩) (c := .output) ho
    rw [hf]
    rfl
  · have he : error.Refuses error.waiting := h.resolve_left ho
    obtain ⟨output', hflush, -⟩ := flush_delivers (j := ⟨s, output, error⟩) (c := .output) ho
    have h1 : flush .output ⟨s, output, error⟩ =
        (⟨s.deliver output output.waiting, output', error⟩, none) := hflush
    obtain ⟨f, hf⟩ :=
      flush_refused (j := ⟨s.deliver output output.waiting, output', error⟩) (c := .error) he
    rw [h1]
    show (flush .error ⟨s.deliver output output.waiting, output', error⟩).2.isSome = true
    rw [hf]
    rfl

end Job

/-! ## 5. Two writes and the end -/

namespace Sink

/-- What one write to an empty sink sends at once. -/
def sentNow (s : Sink) (data : Bytes) : Bytes := if s.keeps data then [] else data

/-- What one write to an empty sink leaves waiting. -/
def leftWaiting (s : Sink) (data : Bytes) : Bytes := if s.keeps data then data else []

/-- A sink after a write that it has not turned away. -/
structure Wrote (old : Sink) (data : Bytes) (new : Sink) : Prop where
  waiting : new.waiting = old.leftWaiting data
  object : new.object? = old.object?
  deliver : ∀ t : Shell, t.deliver new new.waiting = t.deliver old (old.leftWaiting data)

/-- Nothing has been written to an empty sink. -/
theorem Wrote.nothing {s : Sink} (hw : s.waiting = []) : s.Wrote [] s := by
  have hleft : s.leftWaiting [] = [] := by rw [leftWaiting, ite_self]
  refine ⟨hw.trans hleft.symm, rfl, fun t => ?_⟩
  rw [hw, hleft]

/-- A sink refuses what waits in it after a write exactly when it refuses the bytes themselves. -/
theorem Wrote.refuses_iff {old new : Sink} {data : Bytes} (h : Wrote old data new)
    (hr : old.keeps data = false → ¬ old.Refuses data) :
    new.Refuses new.waiting ↔ old.Refuses data := by
  rw [Refuses, h.waiting, h.object, leftWaiting]
  cases hk : old.keeps data with
  | true => rw [if_pos rfl]; rfl
  | false =>
    rw [if_neg Bool.false_ne_true]
    exact ⟨fun hn => absurd rfl hn.2, fun hn => absurd hn (hr hk)⟩

end Sink

namespace Job

variable {s : Shell} {output error : Sink} {o e : Bytes}

/-- **One write to an empty sink**, unless it is turned away at once. -/
theorem write_wrote {j : Job} {c : Channel} {data : Bytes} (hw : (j.sink c).waiting = [])
    (hr : (j.sink c).keeps data = false → ¬ (j.sink c).Refuses data) :
    ∃ sink, j.write c data =
        ((j.onShell (·.deliver (j.sink c) ((j.sink c).sentNow data))).withSink c sink, none) ∧
      (j.sink c).Wrote data sink := by
  cases hk : (j.sink c).keeps data with
  | true =>
    refine ⟨(j.sink c).keeping data, ?_, ?_, Sink.object?_keeping _ _, fun t => ?_⟩
    · rw [write_keeps hw hk, Sink.sentNow, hk, if_pos rfl, onShell, Shell.deliver_nil]
    · rw [Sink.waiting_keeping hk, Sink.leftWaiting, hk, if_pos rfl]
    · rw [Shell.deliver_keeping, Sink.waiting_keeping hk, Sink.leftWaiting, hk, if_pos rfl]
  | false =>
    obtain ⟨sink, hwrite, hsink⟩ := write_delivers hw hk (hr hk)
    have hleft : (j.sink c).leftWaiting data = [] := by rw [Sink.leftWaiting, hk]; rfl
    refine ⟨sink, ?_, hsink.waiting.trans hleft.symm, hsink.object, fun t => ?_⟩
    · rw [hwrite, Sink.sentNow, hk]
      rfl
    · rw [hsink.waiting, hleft, Shell.deliver_nil, Shell.deliver_nil]

/-- Both writes have been taken: the job that is left, and its sinks. -/
theorem writes_wrote (hwo : output.waiting = []) (hwe : error.waiting = [])
    (ho : output.keeps o = false → ¬ output.Refuses o)
    (he : error.keeps e = false → ¬ error.Refuses e) :
    ∃ output' error', andThen (write .output o ⟨s, output, error⟩) (write .error e) =
        (⟨(s.deliver output (output.sentNow o)).deliver error (error.sentNow e), output', error'⟩,
          none) ∧
      output.Wrote o output' ∧ error.Wrote e error' := by
  obtain ⟨output', h1, ho'⟩ := write_wrote (j := ⟨s, output, error⟩) (c := .output) hwo ho
  obtain ⟨error', h2, he'⟩ := write_wrote
    (j := ⟨s.deliver output (output.sentNow o), output', error⟩) (c := .error) hwe he
  refine ⟨output', error', ?_, ho', he'⟩
  rw [h1]
  exact h2

/-- The errors have been turned away at once, after the output was taken. -/
theorem writes_refused (hwo : output.waiting = []) (hwe : error.waiting = [])
    (ho : output.keeps o = false → ¬ output.Refuses o) (hk : error.keeps e = false)
    (hr : error.Refuses e) :
    ∃ output' f, andThen (write .output o ⟨s, output, error⟩) (write .error e) =
        (⟨s.deliver output (output.sentNow o), output', error⟩, some f) ∧
      output.Wrote o output' := by
  obtain ⟨output', h1, ho'⟩ := write_wrote (j := ⟨s, output, error⟩) (c := .output) hwo ho
  obtain ⟨f, h2⟩ := write_refused
    (j := ⟨s.deliver output (output.sentNow o), output', error⟩) (c := .error) hwe hk hr
  refine ⟨output', f, ?_, ho'⟩
  rw [h1]
  exact h2

/-- What two writes have sent at once, and what they have left waiting, is each sink's bytes once:
    at one of its two turns a sink is delivered them, and nothing at the other. -/
theorem deliver_turns (output : Sink) (o : Bytes) (error : Sink) (e : Bytes) (s : Shell) :
    (((s.deliver output (output.sentNow o)).deliver error (error.sentNow e)).deliver output
      (output.leftWaiting o)).deliver error (error.leftWaiting e) =
        s.deliverBoth output o error e := by
  unfold Shell.deliverBoth
  cases hko : output.keeps o <;> cases hke : error.keeps e <;>
    simp [Sink.sentNow, Sink.leftWaiting, hko, hke]

/-- Both writes have been taken: what is left in the end. -/
theorem fst_finish_wrote {output' error' : Sink} (ho : output.Wrote o output')
    (he : error.Wrote e error') (fault : Option Fault) :
    (finish (⟨(s.deliver output (output.sentNow o)).deliver error (error.sentNow e), output',
      error'⟩, fault)).1 = s.settle output o error e := by
  have hrelease : ∀ t : Shell,
      (t.release error').release output' = (t.release error).release output := by
    intro t
    simp only [Shell.release, ho.object, he.object]
  rw [fst_finish, ho.deliver, he.deliver, hrelease, deliver_turns, Shell.settle]

/-- **Each sink that takes its bytes gets them, once**, whatever the other does: only an output that
    is turned away at once keeps the errors from being written. -/
theorem fst_finish_writes (hwo : output.waiting = []) (hwe : error.waiting = []) :
    (finish (andThen (write .output o ⟨s, output, error⟩) (write .error e))).1 =
      s.settle output o error (if output.Stops o then [] else e) := by
  have hnone : ∀ sink : Sink, sink.sentNow [] = [] := fun sink => ite_self []
  by_cases ho : output.Stops o
  · -- nothing is written at all
    obtain ⟨hko, hro⟩ := Sink.stops_iff.mp ho
    obtain ⟨f, hwrite⟩ := write_refused (j := ⟨s, output, error⟩) (c := .output) hwo hko hro
    have hfinish := fst_finish_wrote (s := s) (.nothing hwo) (.nothing hwe) (some f)
    rw [hnone, hnone, Shell.deliver_nil, Shell.deliver_nil] at hfinish
    rw [if_pos ho, hwrite, andThen, hfinish, Shell.settle, Shell.settle,
      Shell.deliverBoth_error (Shell.deliver_refused hro),
      Shell.deliverBoth_error (Shell.deliver_nil output)]
  · rw [if_neg ho]
    have hro : output.keeps o = false → ¬ output.Refuses o := fun hk h =>
      ho (Sink.stops_iff.mpr ⟨hk, h⟩)
    by_cases he : error.Stops e
    · -- the output has been written, the errors have not
      obtain ⟨hke, hre⟩ := Sink.stops_iff.mp he
      obtain ⟨output', f, hwrites, ho'⟩ := writes_refused (s := s) hwo hwe hro hke hre
      have hfinish := fst_finish_wrote (s := s) ho' (.nothing hwe) (some f)
      rw [hnone, Shell.deliver_nil] at hfinish
      rw [hwrites, hfinish, Shell.settle, Shell.settle,
        Shell.deliverBoth_output (Shell.deliver_refused hre),
        Shell.deliverBoth_output (Shell.deliver_nil error)]
    · have hre : error.keeps e = false → ¬ error.Refuses e := fun hk h =>
        he (Sink.stops_iff.mpr ⟨hk, h⟩)
      obtain ⟨output', error', hwrites, ho', he'⟩ := writes_wrote (s := s) hwo hwe hro hre
      rw [hwrites, fst_finish_wrote ho' he']

/-- **Both sinks take their bytes, once.** -/
theorem finish_writes (hwo : output.waiting = []) (hwe : error.waiting = [])
    (ho : ¬ output.Refuses o) (he : ¬ error.Refuses e) :
    finish (andThen (write .output o ⟨s, output, error⟩) (write .error e)) =
      (s.settle output o error e, none) := by
  obtain ⟨output', error', hwrites, ho', he'⟩ :=
    writes_wrote (s := s) hwo hwe (fun _ => ho) (fun _ => he)
  have hro : ¬ output'.Refuses output'.waiting := fun h => ho ((ho'.refuses_iff fun _ => ho).mp h)
  have hre : ¬ error'.Refuses error'.waiting := fun h => he ((he'.refuses_iff fun _ => he).mp h)
  rw [hwrites]
  exact Prod.ext (fst_finish_wrote ho' he' none) (snd_finish hro hre)

/-- **The end is a fault exactly when a sink refuses its bytes.** -/
theorem fault_finish_writes (hwo : output.waiting = []) (hwe : error.waiting = []) :
    (finish (andThen (write .output o ⟨s, output, error⟩) (write .error e))).2 = none ↔
      ¬ output.Refuses o ∧ ¬ error.Refuses e := by
  constructor
  · intro hnone
    rw [← not_or]
    intro hr
    have hsome : (finish (andThen (write .output o ⟨s, output, error⟩) (write .error e))).2.isSome =
        true := by
      by_cases ho : output.keeps o = false ∧ output.Refuses o
      · obtain ⟨f, hf⟩ := write_refused (j := ⟨s, output, error⟩) (c := .output) hwo ho.1 ho.2
        rw [hf]
        exact isSome_finish _ (.inl rfl)
      · have ho : output.keeps o = false → ¬ output.Refuses o := fun hk hn => ho ⟨hk, hn⟩
        by_cases he : error.keeps e = false ∧ error.Refuses e
        · obtain ⟨output', f, hwrites, -⟩ := writes_refused (s := s) hwo hwe ho he.1 he.2
          rw [hwrites]
          exact isSome_finish _ (.inl rfl)
        · have he : error.keeps e = false → ¬ error.Refuses e := fun hk hn => he ⟨hk, hn⟩
          obtain ⟨output', error', hwrites, ho', he'⟩ := writes_wrote (s := s) hwo hwe ho he
          rw [hwrites]
          exact isSome_finish_of_refuses
            (hr.imp (ho'.refuses_iff ho).mpr (he'.refuses_iff he).mpr)
    rw [hnone] at hsome
    cases hsome
  · intro htakes
    obtain ⟨ho, he⟩ := htakes
    rw [finish_writes hwo hwe ho he]

end Job

/-! ## 6. What sinks leave alone -/

/-- The shells differ at most in the streams, the log and the files. -/
structure Shell.Keeps (s t : Shell) : Prop where
  session : t.session = s.session
  place : t.machine.place = s.machine.place
  environment : t.machine.environment = s.machine.environment
  searchPath : t.searchPath = s.searchPath
  launches : t.launches = s.launches

namespace Shell.Keeps

theorem refl (s : Shell) : s.Keeps s := ⟨rfl, rfl, rfl, rfl, rfl⟩

theorem trans {s t u : Shell} (h : s.Keeps t) (k : t.Keeps u) : s.Keeps u where
  session := k.session.trans h.session
  place := k.place.trans h.place
  environment := k.environment.trans h.environment
  searchPath := k.searchPath.trans h.searchPath
  launches := k.launches.trans h.launches

theorem put (c : Channel) (data : Bytes) (s : Shell) : s.Keeps (s.put c data) := by
  cases c <;> exact ⟨rfl, rfl, rfl, rfl, rfl⟩

theorem note (e : Event) (s : Shell) : s.Keeps (s.note e) := ⟨rfl, rfl, rfl, rfl, rfl⟩

theorem noteAll (es : List Event) (s : Shell) : s.Keeps (s.noteAll es) := by
  induction es generalizing s with
  | nil => exact refl s
  | cons e es ih => exact (note e s).trans (ih (s.note e))

theorem withFiles (files : Files) (s : Shell) : s.Keeps (s.withFiles files) :=
  ⟨rfl, rfl, rfl, rfl, rfl⟩

theorem use (u : FileUse) (s : Shell) : s.Keeps (s.withMachine (s.machine.use u)) :=
  ⟨rfl, rfl, rfl, rfl, rfl⟩

theorem refuse (line : String) (r : SinkRefusal) (s : Shell) : s.Keeps (s.refuse line r) :=
  (note _ s).trans (put .error _ _)

theorem release (sink : Sink) (s : Shell) : s.Keeps (s.release sink) := by
  unfold Shell.release
  split
  · exact refl s
  · exact use _ s

end Shell.Keeps

namespace Job

theorem shell_withHandle (c : Channel) (name : String) (files : Files) (h : Handle) (j : Job) :
    (j.withHandle c name files h).shell = j.shell.withFiles files := by
  cases c <;> rfl

theorem write_frame (c : Channel) (data : Bytes) (j : Job) :
    j.shell.Keeps (j.write c data).1.shell := by
  unfold write
  split
  · exact .refl _
  · split
    · exact .put _ _ _
    · split
      · rw [shell_withHandle]
        exact .withFiles _ _
      · exact .refl _

theorem flush_frame (c : Channel) (j : Job) : j.shell.Keeps (j.flush c).1.shell := by
  unfold flush
  split
  · exact .refl _
  · split
    · rw [shell_withHandle]
      exact .withFiles _ _
    · exact .refl _

theorem close_frame (c : Channel) (j : Job) : j.shell.Keeps (j.close c).1.shell := by
  unfold close
  split
  · exact .refl _
  · exact (flush_frame c j).trans (.use _ _)

/-- What two operations keep, one after the other keeps. -/
theorem andThen_frame {s : Shell} {r : Job × Option Fault} {f : Job → Job × Option Fault}
    (hr : s.Keeps r.1.shell) (hf : ∀ j : Job, j.shell.Keeps (f j).1.shell) :
    s.Keeps (andThen r f).1.shell := by
  obtain ⟨j, fault⟩ := r
  cases fault with
  | none => exact hr.trans (hf j)
  | some fault => exact hr

theorem andAlways_frame {s : Shell} {r : Job × Option Fault} {f : Job → Job × Option Fault}
    (hr : s.Keeps r.1.shell) (hf : ∀ j : Job, j.shell.Keeps (f j).1.shell) :
    s.Keeps (andAlways r f).1.shell :=
  hr.trans (hf r.1)

/-- **The end of a job touches only the streams and the files**, whatever fails in it. -/
theorem finish_frame (r : Job × Option Fault) : r.1.shell.Keeps (finish r).1 := by
  have hflush : ∀ j : Job, j.shell.Keeps (andThen (j.flush .output) (flush .error)).1.shell :=
    fun j => andThen_frame (flush_frame .output j) (flush_frame .error)
  exact andAlways_frame (andAlways_frame (andAlways_frame (.refl _) hflush) (close_frame .error))
    (close_frame .output)

end Job

end LineShell
