import LogPattern.Proofs.Validation.Interleaving

/-!
# Batches come to an end

As long as a batch has not returned, something other than its cancellation can happen,
and no run goes on for ever: what is left to be done gets less with every step.
-/

namespace LogPattern

namespace Batch

variable {matcher : Matcher} {lines : List LogLine} {texts : List String} {workers : Nat}
  {batch next : Batch}

/-! ## Something can happen -/

theorem exists_work_of_running {i : Nat} {done : List LineResult} {rest : List LogLine}
    (htask : batch.tasks[i]? = some (.running done rest)) :
    ∃ event next, event ≠ .cancel ∧ batch.Step matcher lines event next := by
  cases rest with
  | nil => exact ⟨.work i .finish, _, by simp, .work htask .finish⟩
  | cons line rest => exact ⟨.work i .process, _, by simp, .work htask .process⟩

theorem exists_step_of_joining (hphase : batch.phase = .joining) :
    ∃ event next, event ≠ .cancel ∧ batch.Step matcher lines event next := by
  by_cases hended : ∃ task ∈ batch.tasks, task.isEnded = true
  · obtain ⟨task, hmem, htask⟩ := hended
    obtain ⟨i, hi⟩ := List.mem_iff_getElem?.1 hmem
    cases task with
    | running done rest => cases htask
    | joined report => cases htask
    | ended report => exact ⟨.join i, _, by simp, .join hphase hi⟩
  · by_cases hopen : ∃ task ∈ batch.tasks, task.isJoined = false
    · refine ⟨.wait, _, by simp, .wait hphase (fun task hmem => ?_) hopen⟩
      exact Bool.eq_false_iff.2 fun htask => hended ⟨task, hmem, htask⟩
    · refine ⟨.leave, _, by simp, .leave hphase fun task hmem => ?_⟩
      by_contra hjoined
      exact hopen ⟨task, hmem, Bool.eq_false_iff.2 hjoined⟩

/-- Whoever sleeps is woken by a worker that ends. -/
theorem exists_step_of_waiting (hphase : batch.phase = .waiting)
    (hopen : ∃ task ∈ batch.tasks, task.isJoined = false) :
    ∃ event next, event ≠ .cancel ∧ batch.Step matcher lines event next := by
  obtain ⟨task, hmem, htask⟩ := hopen
  cases task with
  | running done rest =>
      obtain ⟨i, hi⟩ := List.mem_iff_getElem?.1 hmem
      exact exists_work_of_running hi
  | ended report => exact ⟨.wake, _, by simp, .wake hphase (.inr ⟨_, hmem, rfl⟩)⟩
  | joined report => cases htask

theorem Sound.exists_step (h : batch.Sound matcher texts workers)
    (hphase : ∀ results?, batch.phase ≠ .returned results?) :
    ∃ event next, event ≠ .cancel ∧ batch.Step matcher lines event next := by
  cases hcase : batch.phase with
  | polling =>
      cases hcancelled : batch.cancelled with
      | true => exact ⟨.giveUp, _, by simp, .giveUp hcase hcancelled⟩
      | false => exact ⟨.proceed, _, by simp, .proceed hcase hcancelled⟩
  | joining => exact exists_step_of_joining hcase
  | waiting => exact exists_step_of_waiting hcase (h.waiting hcase)
  | checking => exact ⟨.check, _, by simp, .check hcase⟩
  | returned results? => exact absurd hcase (hphase results?)

end Batch

/-! ## What is left to be done -/

def WorkerTask.cost : WorkerTask → Nat
  | running _ rest => rest.length + 6
  | ended _ => 2
  | joined _ => 0

theorem WorkerTask.Step.cost_lt {matcher : Matcher} {cancelled : Bool} {task next : WorkerTask}
    {event : WorkerEvent} (hstep : task.Step matcher cancelled event next) :
    next.cost < task.cost ∧ (next.isEnded = true → next.cost + 4 ≤ task.cost) := by
  cases hstep <;> simp [WorkerTask.cost, WorkerTask.isEnded]

/--
What the loop has left to do until it joins, sleeps or returns next; `ended` says that
there is a worker to be joined, which a sleeper is woken for.
-/
def Phase.cost (cancelled ended : Bool) : Phase → Nat
  | polling => bif cancelled then 2 else 3
  | joining => bif cancelled then 4 else 2
  | waiting => bif cancelled then 3 else bif ended then 4 else 1
  | checking => 1
  | returned _ => 0

theorem Phase.cost_le (phase : Phase) (cancelled : Bool) {before after newly : Bool}
    (h : after = true → before = true ∨ newly = true) :
    phase.cost cancelled after ≤ phase.cost cancelled before + bif newly then 3 else 0 := by
  cases phase with
  | waiting =>
      cases after with
      | false => cases cancelled <;> cases before <;> cases newly <;> simp [Phase.cost]
      | true =>
          rcases h rfl with rfl | rfl
          · simp [Phase.cost]
          · cases cancelled <;> cases before <;> simp [Phase.cost]
  | _ => simp [Phase.cost]

namespace Batch

variable {matcher : Matcher} {lines : List LogLine} {texts : List String} {workers : Nat}
  {batch next : Batch}

def cost (batch : Batch) : Nat :=
  (batch.tasks.map WorkerTask.cost).sum +
    batch.phase.cost batch.cancelled (batch.tasks.any WorkerTask.isEnded) +
    bif batch.cancelled then 0 else 2

theorem any_isEnded_set {tasks : List WorkerTask} {i : Nat} {task : WorkerTask}
    (h : (tasks.set i task).any WorkerTask.isEnded = true) :
    tasks.any WorkerTask.isEnded = true ∨ task.isEnded = true := by
  obtain ⟨other, hmem, hother⟩ := List.any_eq_true.1 h
  rcases List.mem_or_eq_of_mem_set hmem with hmem | rfl
  · exact .inl (List.any_eq_true.2 ⟨other, hmem, hother⟩)
  · exact .inr hother

theorem cost_setTask_lt {i : Nat} {event : WorkerEvent} {task next : WorkerTask}
    (htask : batch.tasks[i]? = some task) (hstep : task.Step matcher batch.cancelled event next) :
    (batch.setTask i next).cost < batch.cost := by
  obtain ⟨hless, hended⟩ := hstep.cost_lt
  have hsum := sum_map_set WorkerTask.cost htask next
  have hphase := batch.phase.cost_le batch.cancelled (@any_isEnded_set batch.tasks i next)
  simp only [cost, setTask]
  cases hnext : next.isEnded with
  | true =>
      have hmuch := hended hnext
      simp only [hnext, cond_true] at hphase
      omega
  | false =>
      simp only [hnext, cond_false] at hphase
      omega

/-- Every step but the cancellation leaves less to be done. -/
theorem Step.cost_le {event : BatchEvent} (hstep : batch.Step matcher lines event next) :
    next.cost + (if event = .cancel then 0 else 1) ≤ batch.cost := by
  cases hstep with
  | cancel =>
      simp only [cost, if_true]
      generalize batch.tasks.any WorkerTask.isEnded = ended
      cases batch.phase <;> cases batch.cancelled <;> cases ended <;> simp [Phase.cost]
  | work htask hwork =>
      have hless := cost_setTask_lt htask hwork
      simp only [reduceCtorEq, if_false]
      omega
  | giveUp hphase hcancelled => simp [cost, Phase.cost, hphase, hcancelled]
  | proceed hphase hcancelled => simp [cost, Phase.cost, hphase, hcancelled]
  | @join i report hphase htask =>
      have hsum := sum_map_set WorkerTask.cost htask (.joined report)
      simp only [WorkerTask.cost] at hsum
      simp only [cost, joinTask, Phase.cost, hphase, reduceCtorEq, if_false]
      cases batch.cancelled <;> simp only [cond_true, cond_false] <;> omega
  | leave hphase hjoined =>
      simp only [cost, Phase.cost, hphase, reduceCtorEq, if_false]
      cases batch.cancelled <;> simp only [cond_true, cond_false] <;> omega
  | wait hphase hended hopen =>
      have hnone : batch.tasks.any WorkerTask.isEnded = false := by
        rw [List.any_eq_false]
        intro task hmem
        simp [hended task hmem]
      simp only [cost, Phase.cost, hphase, hnone, reduceCtorEq, if_false]
      cases batch.cancelled <;> simp only [cond_true, cond_false] <;> omega
  | wake hphase hnews =>
      simp only [cost, Phase.cost, hphase, reduceCtorEq, if_false]
      cases hcancelled : batch.cancelled with
      | true =>
          simp only [cond_true]
          omega
      | false =>
          obtain ⟨task, hmem, htask⟩ := hnews.resolve_left (by simp [hcancelled])
          have hended : batch.tasks.any WorkerTask.isEnded = true :=
            List.any_eq_true.2 ⟨task, hmem, htask⟩
          simp only [hended, cond_true, cond_false]
          omega
  | check hphase =>
      simp only [cost, Phase.cost, hphase, reduceCtorEq, if_false]
      omega

/-- A run has no more steps, cancellations apart, than there was to be done. -/
theorem Run.countP_le {events : List BatchEvent} (hrun : batch.Run matcher lines events next) :
    next.cost + events.countP (· ≠ .cancel) ≤ batch.cost := by
  induction hrun with
  | nil => simp
  | @cons first middle last event rest hstep _ ih =>
      have hone := hstep.cost_le
      have hcount : (event :: rest).countP (· ≠ .cancel) =
          rest.countP (· ≠ .cancel) + if event = .cancel then 0 else 1 := by
        by_cases hcancel : event = .cancel
        · simp [hcancel]
        · simp [hcancel]
      rw [hcount]
      omega

theorem cost_start (texts : List String) (workers : Nat) :
    (start texts workers).cost =
      texts.length + 6 * (chunks (LogLine.numbered texts) workers).length + 5 := by
  have hsum : ∀ parts : List (List LogLine),
      ((parts.map (WorkerTask.running [])).map WorkerTask.cost).sum =
        parts.flatten.length + 6 * parts.length := by
    intro parts
    induction parts with
    | nil => rfl
    | cons chunk parts ih =>
        simp only [List.map_cons, List.sum_cons, ih, WorkerTask.cost, List.flatten_cons,
          List.length_append, List.length_cons]
        omega
  have htasks := hsum (chunks (LogLine.numbered texts) workers)
  rw [flatten_chunks, LogLine.length_numbered] at htasks
  simp [cost, Phase.cost, start] at htasks ⊢
  omega

theorem Run.countP_start_le {events : List BatchEvent}
    (hrun : (start texts workers).Run matcher lines events batch) :
    events.countP (· ≠ .cancel) ≤
      texts.length + 6 * (chunks (LogLine.numbered texts) workers).length + 5 := by
  have hle := hrun.countP_le
  rw [cost_start] at hle
  omega

end Batch

end LogPattern
