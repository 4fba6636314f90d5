import LogPattern.Proofs.Validation.Collection

/-!
# Interleavings of workers, joining and cancellation

Workers go through their chunks line by line and end on their own, by dying, or because
they see the batch cancelled.  Meanwhile the batch polls for cancellation and joins
workers that have ended, in any order, until all are joined; then it looks for
cancellation once more.  A run is any order of these steps.
-/

namespace LogPattern

/-! ## Tasks -/

inductive WorkerTask where
  /-- The results so far, and the lines that are left. -/
  | running (done : List LineResult) (rest : List LogLine)
  /-- The worker has ended, and its report waits. -/
  | ended (report : WorkerReport)
  | joined (report : WorkerReport)

inductive WorkerEvent where
  | process
  /-- The worker sees that the batch is cancelled, and leaves the lines that are left. -/
  | stop
  | finish
  | die
deriving DecidableEq, Repr

namespace WorkerTask

def isEnded : WorkerTask → Bool
  | ended _ => true
  | _ => false

def isJoined : WorkerTask → Bool
  | joined _ => true
  | _ => false

def isDead : WorkerTask → Bool
  | ended report => report = .died
  | joined report => report = .died
  | running _ _ => false

def joinedLines : WorkerTask → List LogLine
  | joined report => report.results.map (·.line)
  | _ => []

/--
A step of a worker.  It may process a line that it came to before the batch was cancelled,
so only stopping depends on cancellation.
-/
inductive Step (matcher : Matcher) (cancelled : Bool) :
    WorkerTask → WorkerEvent → WorkerTask → Prop where
  | process {done : List LineResult} {line : LogLine} {rest : List LogLine} :
      Step matcher cancelled (running done (line :: rest)) .process
        (running (done ++ [line.process matcher]) rest)
  | stop {done : List LineResult} {line : LogLine} {rest : List LogLine}
      (hcancelled : cancelled = true) :
      Step matcher cancelled (running done (line :: rest)) .stop (ended (.finished done))
  | finish {done : List LineResult} :
      Step matcher cancelled (running done []) .finish (ended (.finished done))
  | die {done : List LineResult} {rest : List LogLine} :
      Step matcher cancelled (running done rest) .die (ended .died)

end WorkerTask

/-! ## Batches -/

/--
Where the batch is in its loop: about to look for cancellation, about to join a worker,
asleep until there is news, out of the loop and about to look a last time, or done.
-/
inductive Phase where
  | polling
  | joining
  | waiting
  | checking
  | returned (results? : Option (List LineResult))

structure Batch where
  cancelled : Bool
  tasks : List WorkerTask
  slots : ResultSlots
  phase : Phase

inductive BatchEvent where
  | cancel
  | work (i : Nat) (event : WorkerEvent)
  | giveUp
  | proceed
  | join (i : Nat)
  | leave
  | wait
  | wake
  | check
deriving DecidableEq, Repr

namespace Batch

/-- The workers have their chunks, and no result has come in. -/
def start (texts : List String) (workers : Nat) : Batch :=
  ⟨false, (chunks (LogLine.numbered texts) workers).map (.running []),
    Array.replicate (LogLine.numbered texts).length none, .polling⟩

def setTask (batch : Batch) (i : Nat) (task : WorkerTask) : Batch :=
  { batch with tasks := batch.tasks.set i task }

@[simp] theorem tasks_setTask (batch : Batch) (i : Nat) (task : WorkerTask) :
    (batch.setTask i task).tasks = batch.tasks.set i task := rfl

@[simp] theorem setTask_setTask (batch : Batch) (i : Nat) (task next : WorkerTask) :
    (batch.setTask i task).setTask i next = batch.setTask i next := by
  simp [setTask]

def joinTask (batch : Batch) (i : Nat) (report : WorkerReport) : Batch :=
  ⟨batch.cancelled, batch.tasks.set i (.joined report), batch.slots.join report, .polling⟩

@[simp] theorem tasks_joinTask (batch : Batch) (i : Nat) (report : WorkerReport) :
    (batch.joinTask i report).tasks = batch.tasks.set i (.joined report) := rfl

inductive Step (matcher : Matcher) (lines : List LogLine) :
    Batch → BatchEvent → Batch → Prop where
  | cancel {batch : Batch} : Step matcher lines batch .cancel { batch with cancelled := true }
  | work {batch : Batch} {i : Nat} {event : WorkerEvent} {task next : WorkerTask}
      (htask : batch.tasks[i]? = some task) (hstep : task.Step matcher batch.cancelled event next) :
      Step matcher lines batch (.work i event) (batch.setTask i next)
  | giveUp {batch : Batch} (hphase : batch.phase = .polling) (hcancelled : batch.cancelled = true) :
      Step matcher lines batch .giveUp { batch with phase := .returned none }
  | proceed {batch : Batch} (hphase : batch.phase = .polling)
      (hcancelled : batch.cancelled = false) :
      Step matcher lines batch .proceed { batch with phase := .joining }
  | join {batch : Batch} {i : Nat} {report : WorkerReport} (hphase : batch.phase = .joining)
      (htask : batch.tasks[i]? = some (.ended report)) :
      Step matcher lines batch (.join i) (batch.joinTask i report)
  | leave {batch : Batch} (hphase : batch.phase = .joining)
      (hjoined : ∀ task ∈ batch.tasks, task.isJoined = true) :
      Step matcher lines batch .leave { batch with phase := .checking }
  | wait {batch : Batch} (hphase : batch.phase = .joining)
      (hended : ∀ task ∈ batch.tasks, task.isEnded = false)
      (hopen : ∃ task ∈ batch.tasks, task.isJoined = false) :
      Step matcher lines batch .wait { batch with phase := .waiting }
  | wake {batch : Batch} (hphase : batch.phase = .waiting)
      (hnews : batch.cancelled = true ∨ ∃ task ∈ batch.tasks, task.isEnded = true) :
      Step matcher lines batch .wake { batch with phase := .polling }
  | check {batch : Batch} (hphase : batch.phase = .checking) :
      Step matcher lines batch .check
        { batch with
          phase := .returned (if batch.cancelled then none else some (batch.slots.fill lines)) }

inductive Run (matcher : Matcher) (lines : List LogLine) :
    Batch → List BatchEvent → Batch → Prop where
  | nil {batch : Batch} : Run matcher lines batch [] batch
  | cons {first middle last : Batch} {event : BatchEvent} {rest : List BatchEvent}
      (hstep : first.Step matcher lines event middle) (hrest : middle.Run matcher lines rest last) :
      Run matcher lines first (event :: rest) last

variable {matcher : Matcher} {lines : List LogLine} {first middle last batch next : Batch}

theorem Step.cancelled_iff {event : BatchEvent} (hstep : batch.Step matcher lines event next) :
    next.cancelled = true ↔ batch.cancelled = true ∨ event = .cancel := by
  cases hstep <;> simp [setTask, joinTask]

/-- A batch returns by giving up or by its last look for cancellation. -/
theorem Step.phase_returned {event : BatchEvent} {results? : Option (List LineResult)}
    (hstep : batch.Step matcher lines event next) (hphase : next.phase = .returned results?) :
    batch.phase = .returned results? ∨
      (batch.cancelled = true ∧ results? = none) ∨
      (event = .check ∧
        results? = if batch.cancelled then none else some (batch.slots.fill lines)) := by
  cases hstep with
  | cancel => exact .inl hphase
  | work _ _ => exact .inl hphase
  | giveUp _ hcancelled =>
      cases hphase
      exact .inr (.inl ⟨hcancelled, rfl⟩)
  | check _ =>
      cases hphase
      exact .inr (.inr ⟨rfl, rfl⟩)
  | _ => cases hphase

theorem Run.append {front back : List BatchEvent} (hfront : first.Run matcher lines front middle)
    (hback : middle.Run matcher lines back last) :
    first.Run matcher lines (front ++ back) last := by
  induction hfront with
  | nil => exact hback
  | cons hstep _ ih => exact .cons hstep (ih hback)

theorem Run.split {front back : List BatchEvent}
    (h : first.Run matcher lines (front ++ back) last) :
    ∃ middle, first.Run matcher lines front middle ∧ middle.Run matcher lines back last := by
  induction front generalizing first with
  | nil => exact ⟨first, .nil, h⟩
  | cons event front ih =>
      cases h with
      | cons hstep hrest =>
          obtain ⟨middle, hfront, hback⟩ := ih hrest
          exact ⟨middle, .cons hstep hfront, hback⟩

/-- What every step preserves, runs preserve. -/
theorem Run.preserves (Holds : Batch → Prop) {events : List BatchEvent}
    (hstep : ∀ {before after event}, event ∈ events → Holds before →
      before.Step matcher lines event after → Holds after)
    (h : first.Run matcher lines events last) (hfirst : Holds first) : Holds last := by
  induction h with
  | nil => exact hfirst
  | cons hmove _ ih =>
      exact ih (fun hmem => hstep (List.mem_cons_of_mem _ hmem))
        (hstep List.mem_cons_self hfirst hmove)

end Batch

/-! ## What tasks hold -/

namespace WorkerReport

/-- A worker that has not died has results of its first lines, and of all unless cancelled. -/
def Sound (matcher : Matcher) (cancelled : Bool) (chunk : List LogLine) : WorkerReport → Prop
  | finished results => ∃ front rest, chunk = front ++ rest ∧
      results = front.map (LogLine.process matcher) ∧ (rest = [] ∨ cancelled = true)
  | died => True

end WorkerReport

namespace WorkerTask

def Sound (matcher : Matcher) (cancelled : Bool) (chunk : List LogLine) : WorkerTask → Prop
  | running done rest => ∃ front, chunk = front ++ rest ∧ done = front.map (LogLine.process matcher)
  | ended report => report.Sound matcher cancelled chunk
  | joined report => report.Sound matcher cancelled chunk

variable {matcher : Matcher} {cancelled : Bool} {chunk : List LogLine} {task next : WorkerTask}
  {event : WorkerEvent}

theorem Sound.cancel (h : task.Sound matcher cancelled chunk) : task.Sound matcher true chunk := by
  have hreport : ∀ {report : WorkerReport}, report.Sound matcher cancelled chunk →
      report.Sound matcher true chunk := by
    intro report hreport
    cases report with
    | died => trivial
    | finished results =>
        obtain ⟨front, rest, hchunk, hresults, -⟩ := hreport
        exact ⟨front, rest, hchunk, hresults, .inr rfl⟩
  cases task with
  | running done rest => exact h
  | ended report => exact hreport h
  | joined report => exact hreport h

theorem Step.sound (hstep : task.Step matcher cancelled event next)
    (h : task.Sound matcher cancelled chunk) : next.Sound matcher cancelled chunk := by
  cases hstep with
  | @process done line rest =>
      obtain ⟨front, rfl, rfl⟩ := h
      exact ⟨front ++ [line], by simp, by simp⟩
  | @stop done line rest hcancelled =>
      obtain ⟨front, rfl, rfl⟩ := h
      exact ⟨front, line :: rest, rfl, rfl, .inr hcancelled⟩
  | finish =>
      obtain ⟨front, rfl, rfl⟩ := h
      exact ⟨front, [], rfl, rfl, .inl rfl⟩
  | die => trivial

theorem Step.isJoined (hstep : task.Step matcher cancelled event next) :
    task.isJoined = false ∧ next.isJoined = false := by
  cases hstep <;> exact ⟨rfl, rfl⟩

theorem Step.joinedLines (hstep : task.Step matcher cancelled event next) :
    task.joinedLines = [] ∧ next.joinedLines = [] := by
  cases hstep <;> exact ⟨rfl, rfl⟩

theorem Step.isDead (hstep : task.Step matcher cancelled event next) :
    task.isDead = false ∧ (next.isDead = true ↔ event = .die) := by
  cases hstep <;> simp [WorkerTask.isDead]

end WorkerTask

/-! ## One task changes -/

section OneTask

variable {tasks : List WorkerTask} {i : Nat} {task next : WorkerTask}

theorem mem_flatMap_set {f : WorkerTask → List LogLine} (htask : tasks[i]? = some task)
    (hnone : f task = []) (line : LogLine) :
    line ∈ (tasks.set i next).flatMap f ↔ line ∈ tasks.flatMap f ∨ line ∈ f next := by
  induction tasks generalizing i with
  | nil => simp at htask
  | cons head tasks ih =>
      cases i with
      | zero =>
          cases htask
          simp [hnone, or_comm]
      | succ i =>
          rw [List.getElem?_cons_succ] at htask
          rw [List.set_cons_succ, List.flatMap_cons, List.flatMap_cons, List.mem_append,
            List.mem_append, ih htask, or_assoc]

theorem sum_map_set (f : WorkerTask → Nat) (htask : tasks[i]? = some task) (next : WorkerTask) :
    ((tasks.set i next).map f).sum + f task = (tasks.map f).sum + f next := by
  induction tasks generalizing i with
  | nil => simp at htask
  | cons head tasks ih =>
      cases i with
      | zero =>
          cases htask
          simp only [List.set_cons_zero, List.map_cons, List.sum_cons]
          omega
      | succ i =>
          rw [List.getElem?_cons_succ] at htask
          have hrest := ih htask
          simp only [List.set_cons_succ, List.map_cons, List.sum_cons]
          omega

theorem sound_of_getElem?_set {matcher : Matcher} {cancelled : Bool}
    {parts : List (List LogLine)}
    (hall : ∀ {j : Nat} {other : WorkerTask} {chunk : List LogLine}, tasks[j]? = some other →
      parts[j]? = some chunk → other.Sound matcher cancelled chunk)
    (htask : tasks[i]? = some task)
    (hnext : ∀ {chunk : List LogLine}, task.Sound matcher cancelled chunk →
      next.Sound matcher cancelled chunk)
    {j : Nat} {other : WorkerTask} {chunk : List LogLine}
    (hother : (tasks.set i next)[j]? = some other)
    (hchunk : parts[j]? = some chunk) : other.Sound matcher cancelled chunk := by
  by_cases hplace : i = j
  · subst hplace
    have hlt := (List.getElem?_eq_some_iff.1 htask).1
    rw [List.getElem?_set_self hlt] at hother
    cases hother
    exact hnext (hall htask hchunk)
  · rw [List.getElem?_set_ne hplace] at hother
    exact hall hother hchunk

end OneTask

namespace Batch

structure Sound (matcher : Matcher) (texts : List String) (workers : Nat) (batch : Batch) :
    Prop where
  length_tasks : batch.tasks.length = (chunks (LogLine.numbered texts) workers).length
  task : ∀ {i : Nat} {task : WorkerTask} {chunk : List LogLine}, batch.tasks[i]? = some task →
    (chunks (LogLine.numbered texts) workers)[i]? = some chunk →
      task.Sound matcher batch.cancelled chunk
  slots : batch.slots.Holds matcher (LogLine.numbered texts)
    (batch.tasks.flatMap WorkerTask.joinedLines)
  waiting : batch.phase = .waiting → ∃ task ∈ batch.tasks, task.isJoined = false
  checking : batch.phase = .checking → ∀ task ∈ batch.tasks, task.isJoined = true
  returned : ∀ {results : List LineResult}, batch.phase = .returned (some results) →
    results = batch.slots.fill (LogLine.numbered texts) ∧
      (∀ task ∈ batch.tasks, task.isJoined = true) ∧
      ∀ {i : Nat} {task : WorkerTask} {chunk : List LogLine}, batch.tasks[i]? = some task →
        (chunks (LogLine.numbered texts) workers)[i]? = some chunk →
          task.Sound matcher false chunk

variable {matcher : Matcher} {texts : List String} {workers : Nat} {batch next : Batch}

theorem sound_start (matcher : Matcher) (texts : List String) (workers : Nat) :
    (start texts workers).Sound matcher texts workers where
  length_tasks := by simp [start]
  task := by
    intro i task chunk htask hchunk
    simp only [start, List.getElem?_map, hchunk, Option.map_some, Option.some.injEq] at htask
    subst htask
    exact ⟨[], rfl, rfl⟩
  slots := by
    have hnone : (start texts workers).tasks.flatMap WorkerTask.joinedLines = [] := by
      simp [start, WorkerTask.joinedLines, List.flatMap_eq_nil_iff]
    rw [hnone]
    exact ResultSlots.holds_replicate _ _
  waiting := by
    intro hphase
    cases hphase
  checking := by
    intro hphase
    cases hphase
  returned := by
    intro results hphase
    cases hphase

theorem Sound.work (h : batch.Sound matcher texts workers) {i : Nat} {event : WorkerEvent}
    {task next : WorkerTask} (htask : batch.tasks[i]? = some task)
    (hstep : task.Step matcher batch.cancelled event next) :
    (batch.setTask i next).Sound matcher texts workers := by
  have hmem : task ∈ batch.tasks := List.mem_of_getElem? htask
  refine ⟨by simpa using h.length_tasks, sound_of_getElem?_set h.task htask hstep.sound,
    ?_, ?_, ?_, ?_⟩
  · refine h.slots.congr fun line _ => ?_
    rw [tasks_setTask, mem_flatMap_set htask hstep.joinedLines.1, hstep.joinedLines.2]
    simp
  · intro _
    exact ⟨next, List.mem_set (List.getElem?_eq_some_iff.1 htask).1 next, hstep.isJoined.2⟩
  · intro hphase
    have hjoined := h.checking hphase task hmem
    rw [hstep.isJoined.1] at hjoined
    cases hjoined
  · intro results hphase
    have hjoined := (h.returned hphase).2.1 task hmem
    rw [hstep.isJoined.1] at hjoined
    cases hjoined

theorem Sound.join (h : batch.Sound matcher texts workers) {i : Nat} {report : WorkerReport}
    (htask : batch.tasks[i]? = some (.ended report)) :
    (batch.joinTask i report).Sound matcher texts workers := by
  have hlt := (List.getElem?_eq_some_iff.1 htask).1
  have hsound : ∀ {chunk : List LogLine},
      (WorkerTask.ended report).Sound matcher batch.cancelled chunk →
        (WorkerTask.joined report).Sound matcher batch.cancelled chunk := fun hreport => hreport
  refine ⟨by simpa using h.length_tasks, sound_of_getElem?_set h.task htask hsound,
    ?_, ?_, ?_, ?_⟩
  · cases report with
    | died =>
        refine h.slots.congr fun line _ => ?_
        rw [tasks_joinTask, mem_flatMap_set htask rfl]
        simp [WorkerTask.joinedLines, WorkerReport.results]
    | finished results =>
        rw [h.length_tasks] at hlt
        have hchunk := List.getElem?_eq_getElem hlt
        obtain ⟨front, rest, hsplit, rfl, -⟩ := h.task htask hchunk
        have hlines : ∀ line ∈ front, line ∈ LogLine.numbered texts := by
          intro line hline
          rw [← flatten_chunks (LogLine.numbered texts) workers, List.mem_flatten]
          exact ⟨_, List.mem_of_getElem? hchunk, by simp [hsplit, hline]⟩
        refine (h.slots.join_finished hlines).congr fun line _ => ?_
        rw [tasks_joinTask, mem_flatMap_set htask rfl]
        simp [WorkerTask.joinedLines, WorkerReport.results, Function.comp_def]
  · intro hphase
    cases hphase
  · intro hphase
    cases hphase
  · intro results hphase
    cases hphase

theorem Sound.step {event : BatchEvent} (h : batch.Sound matcher texts workers)
    (hstep : batch.Step matcher (LogLine.numbered texts) event next) :
    next.Sound matcher texts workers := by
  cases hstep with
  | cancel =>
      exact ⟨h.length_tasks, fun htask hchunk => (h.task htask hchunk).cancel, h.slots, h.waiting,
        h.checking, h.returned⟩
  | work htask hwork => exact h.work htask hwork
  | join _ htask => exact h.join htask
  | giveUp _ _ => exact ⟨h.length_tasks, h.task, h.slots, nofun, nofun, nofun⟩
  | proceed _ _ => exact ⟨h.length_tasks, h.task, h.slots, nofun, nofun, nofun⟩
  | leave _ hjoined => exact ⟨h.length_tasks, h.task, h.slots, nofun, fun _ => hjoined, nofun⟩
  | wait _ _ hopen => exact ⟨h.length_tasks, h.task, h.slots, fun _ => hopen, nofun, nofun⟩
  | wake _ _ => exact ⟨h.length_tasks, h.task, h.slots, nofun, nofun, nofun⟩
  | check hphase =>
      refine ⟨h.length_tasks, h.task, h.slots, nofun, nofun, ?_⟩
      intro results hreturned
      -- only a batch that is not cancelled returns results, and then nobody has stopped early
      cases hcancelled : batch.cancelled with
      | true => simp [hcancelled] at hreturned
      | false =>
          simp only [hcancelled, Bool.false_eq_true, if_false, Phase.returned.injEq,
            Option.some.injEq] at hreturned
          refine ⟨hreturned.symm, h.checking hphase, ?_⟩
          rw [← hcancelled]
          exact h.task

theorem Sound.run {events : List BatchEvent} (h : batch.Sound matcher texts workers)
    (hrun : batch.Run matcher (LogLine.numbered texts) events next) :
    next.Sound matcher texts workers :=
  hrun.preserves (Sound matcher texts workers) (fun _ hbefore hstep => hbefore.step hstep) h

/-! ## Which workers have died -/

theorem Step.isDead {lines : List LogLine} {event : BatchEvent}
    (hstep : batch.Step matcher lines event next) {i : Nat} {after : WorkerTask}
    (hafter : next.tasks[i]? = some after) :
    ∃ before, batch.tasks[i]? = some before ∧
      (after.isDead = true ↔ before.isDead = true ∨ event = .work i .die) := by
  cases hstep with
  | @work j kind task moved htask hwork =>
      rw [tasks_setTask] at hafter
      by_cases hplace : j = i
      · subst hplace
        have hlt := (List.getElem?_eq_some_iff.1 htask).1
        rw [List.getElem?_set_self hlt] at hafter
        cases hafter
        exact ⟨task, htask, by simp [hwork.isDead]⟩
      · rw [List.getElem?_set_ne hplace] at hafter
        exact ⟨after, hafter, by simp [hplace]⟩
  | @join j report _ htask =>
      rw [tasks_joinTask] at hafter
      by_cases hplace : j = i
      · subst hplace
        have hlt := (List.getElem?_eq_some_iff.1 htask).1
        rw [List.getElem?_set_self hlt] at hafter
        cases hafter
        exact ⟨.ended report, htask, by simp [WorkerTask.isDead]⟩
      · rw [List.getElem?_set_ne hplace] at hafter
        exact ⟨after, hafter, by simp⟩
  | _ => exact ⟨after, hafter, by simp⟩

theorem Run.isDead {lines : List LogLine} {events : List BatchEvent}
    (hrun : batch.Run matcher lines events next) {i : Nat} {after : WorkerTask}
    (hafter : next.tasks[i]? = some after) :
    ∃ before, batch.tasks[i]? = some before ∧
      (after.isDead = true ↔ before.isDead = true ∨ .work i .die ∈ events) := by
  induction hrun with
  | nil => exact ⟨after, hafter, by simp⟩
  | cons hstep _ ih =>
      obtain ⟨middle, hmiddle, hlater⟩ := ih hafter
      obtain ⟨before, hbefore, hfirst⟩ := hstep.isDead hmiddle
      refine ⟨before, hbefore, ?_⟩
      rw [hlater, hfirst, List.mem_cons, or_assoc, eq_comm (a := BatchEvent.work i .die)]

theorem Run.isDead_start {events : List BatchEvent}
    (hrun : (start texts workers).Run matcher (LogLine.numbered texts) events batch) {i : Nat}
    {task : WorkerTask} (htask : batch.tasks[i]? = some task) :
    task.isDead = true ↔ .work i .die ∈ events := by
  obtain ⟨before, hbefore, hdead⟩ := hrun.isDead htask
  obtain ⟨chunk, -, rfl⟩ : ∃ chunk, (chunks (LogLine.numbered texts) workers)[i]? = some chunk ∧
      WorkerTask.running [] chunk = before := by
    simpa [start] using hbefore
  simpa [WorkerTask.isDead] using hdead

end Batch

/-! ## Results that are returned -/

/-- The results of a worker that nothing has stopped are those of its chunk. -/
theorem WorkerTask.joinedLines_of_sound {matcher : Matcher} {chunk : List LogLine}
    {task : WorkerTask} (hjoined : task.isJoined = true) (h : task.Sound matcher false chunk) :
    task.joinedLines = if task.isDead then [] else chunk := by
  cases task with
  | running done rest => cases hjoined
  | ended report => cases hjoined
  | joined report =>
      cases report with
      | died => rfl
      | finished results =>
          obtain ⟨front, rest, rfl, rfl, hrest⟩ := h
          obtain rfl : rest = [] := hrest.resolve_right Bool.false_ne_true
          simp [WorkerTask.joinedLines, WorkerTask.isDead, WorkerReport.results, Function.comp_def]

namespace Batch

variable {matcher : Matcher} {texts : List String} {workers : Nat} {batch : Batch}

/-- The result of a line depends on the worker of its chunk only. -/
theorem Sound.getElem?_results (h : batch.Sound matcher texts workers)
    {results : List LineResult} (hphase : batch.phase = .returned (some results)) {k : Nat}
    {line : LogLine} (hline : (LogLine.numbered texts)[k]? = some line) :
    ∃ task, batch.tasks[k / chunkSize texts.length workers]? = some task ∧
      results[k]? =
        some (if task.isDead then ⟨line, .failed .worker⟩ else line.process matcher) := by
  obtain ⟨rfl, hjoined, hsound⟩ := h.returned hphase
  obtain ⟨chunk, hchunk⟩ := exists_chunk workers hline
  have hlt := (List.getElem?_eq_some_iff.1 hchunk).1
  rw [← h.length_tasks] at hlt
  have htask := List.getElem?_eq_getElem hlt
  refine ⟨_, htask, ?_⟩
  generalize batch.tasks[k / chunkSize texts.length workers] = task at htask
  have hlines := WorkerTask.joinedLines_of_sound (hjoined task (List.mem_of_getElem? htask))
    (hsound htask hchunk)
  have hmem : line ∈ batch.tasks.flatMap WorkerTask.joinedLines ↔ task.isDead = false := by
    constructor
    · intro hline'
      obtain ⟨other, hother, hin⟩ := List.mem_flatMap.1 hline'
      obtain ⟨j, hj⟩ := List.mem_iff_getElem?.1 hother
      have hlt' := (List.getElem?_eq_some_iff.1 hj).1
      rw [h.length_tasks] at hlt'
      have hpart := List.getElem?_eq_getElem hlt'
      have hlines' := WorkerTask.joinedLines_of_sound (hjoined other hother) (hsound hj hpart)
      rw [hlines'] at hin
      cases hdead : other.isDead with
      | true => simp [hdead] at hin
      | false =>
          -- the line lies in one chunk only
          simp only [hdead, Bool.false_eq_true, if_false] at hin
          obtain rfl := (mem_chunk_iff hpart hline).1 hin
          rw [htask] at hj
          cases hj
          exact hdead
    · intro hdead
      simp only [hdead, Bool.false_eq_true, if_false] at hlines
      refine List.mem_flatMap.2 ⟨task, List.mem_of_getElem? htask, ?_⟩
      rw [hlines]
      exact (mem_chunk_iff hchunk hline).2 rfl
  rw [h.slots.fill, List.getElem?_map, hline, Option.map_some]
  cases hdead : task.isDead with
  | true => simp [hmem, hdead]
  | false => simp [hmem, hdead]

theorem Sound.length_results (h : batch.Sound matcher texts workers) {results : List LineResult}
    (hphase : batch.phase = .returned (some results)) : results.length = texts.length := by
  obtain ⟨rfl, -⟩ := h.returned hphase
  rw [h.slots.fill, List.length_map, LogLine.length_numbered]

theorem Run.getElem?_results {events : List BatchEvent} {results : List LineResult}
    (hrun : (start texts workers).Run matcher (LogLine.numbered texts) events batch)
    (hphase : batch.phase = .returned (some results)) {k : Nat} {line : LogLine}
    (hline : (LogLine.numbered texts)[k]? = some line) :
    (.work (k / chunkSize texts.length workers) .die ∈ events →
        results[k]? = some ⟨line, .failed .worker⟩) ∧
      (.work (k / chunkSize texts.length workers) .die ∉ events →
        results[k]? = some (line.process matcher)) := by
  have hsound := (sound_start matcher texts workers).run hrun
  obtain ⟨task, htask, hresult⟩ := hsound.getElem?_results hphase hline
  have hdead := hrun.isDead_start htask
  constructor
  · intro hdies
    rw [hresult, if_pos (hdead.2 hdies)]
  · intro hlives
    rw [hresult, if_neg fun h => hlives (hdead.1 h)]

end Batch

end LogPattern
