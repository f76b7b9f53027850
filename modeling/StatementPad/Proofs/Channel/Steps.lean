import Mathlib.Data.List.Nodup
import StatementPad.Channel

/-! # What a step of a channel does

`Step` lists all that a signal can bring about. A ticket waits from the moment its command is in the queue until
it is completed: no step loses one, and no step completes one that does not wait.
-/
namespace StatementPad

/-- Who asked for it; nobody does any more if a call was given up. -/
def Command.ticket? : Command → Option Ticket
  | .call ticket _ => ticket
  | .restart ticket | .shutdown ticket => some ticket

def Command.caller? : Command → Option Ticket
  | .call ticket _ => ticket
  | .restart _ | .shutdown _ => none

def Command.other? : Command → Option Ticket
  | .call _ _ => none
  | .restart ticket | .shutdown ticket => some ticket

def Signal.ticket? : Signal → Option Ticket
  | .submit command => command.ticket?
  | _ => none

namespace Channel

/-- The agent takes no command while a process starts, and none once it has ended. -/
def takes (c : Channel) : Bool := !(c.stopped || c.restarting.isSome)

def accepts (c : Channel) : Command → Bool
  | .call _ _ => c.alive
  | .restart _ | .shutdown _ => !c.stopped

def refusal : Command → List Effect
  | .call waiter _ => completeAll [waiter] .notAlive
  | .restart ticket => [.complete ticket (.restarted (some .notAlive))]
  | .shutdown ticket => [.complete ticket .stopped]

inductive Step (c : Channel) : Signal → Channel → List Effect → Prop where
  | idle {written : Bool} (hi : c.takes = false ∨ c.queue = []) : Step c (.serve written) c []
  | notStarting {fault : Option Fault} (hr : c.restarting = none) : Step c (.started fault) c []
  | ignored {t : Text} (hi : c.reading = true → ∀ e : Wire.Envelope Wire.Reply,
      Wire.Envelope.read? t = some e → c.pending.lookup e.id = none) : Step c (.line t) c []
  | unread (hread : c.reading = false) : Step c .lost c []
  | notAwaited {ticket : Ticket} (ha : c.awaits ticket = false) : Step c (.expire ticket) c []
  | enqueued {command : Command} (ha : c.accepts command = true) :
      Step c (.submit command) { c with queue := c.queue ++ [command] } []
  | refused {command : Command} (ha : c.accepts command = false) : Step c (.submit command) c (refusal command)
  | sent {waiter : Option Ticket} {request : Wire.Request} {queue : List Command} (ht : c.takes = true)
      (hq : c.queue = .call waiter request :: queue) (ha : c.alive = true) :
      Step c (.serve true)
        { c with queue := queue, nextId := c.nextId + 1, pending := c.pending ++ [(c.nextId,waiter)] }
        [.write (Wire.Envelope.mk c.nextId request).write]
  | failed {waiter : Option Ticket} {request : Wire.Request} {queue : List Command} (ht : c.takes = true)
      (hq : c.queue = .call waiter request :: queue) (ha : c.alive = true) :
      Step c (.serve false)
        { c with queue := queue, nextId := c.nextId + 1, alive := false, reading := false, pending := [] }
        (.write (Wire.Envelope.mk c.nextId request).write ::
          completeAll (c.pending.map Prod.snd ++ [waiter]) .noAnswer)
  | unanswered {written : Bool} {waiter : Option Ticket} {request : Wire.Request} {queue : List Command}
      (ht : c.takes = true) (hq : c.queue = .call waiter request :: queue) (ha : c.alive = false) :
      Step c (.serve written) { c with queue := queue } (completeAll [waiter] .noAnswer)
  | replacing {written : Bool} {ticket : Ticket} {queue : List Command} (ht : c.takes = true)
      (hq : c.queue = .restart ticket :: queue) :
      Step c (.serve written)
        { c with queue := queue, alive := false, reading := false, pending := [], restarting := some ticket }
        (completeAll (c.pending.map Prod.snd) .noAnswer ++ [.replaceProcess])
  | stopping {written : Bool} {ticket : Ticket} {queue : List Command} (ht : c.takes = true)
      (hq : c.queue = .shutdown ticket :: queue) :
      Step c (.serve written)
        { c with queue := [], alive := false, reading := false, pending := [], stopped := true }
        ((if c.alive then [.write shutdownLine] else []) ++ completeAll (c.pending.map Prod.snd) .noAnswer ++
          .kill :: .complete ticket .stopped :: queue.flatMap abandoned)
  | started {fault : Option Fault} {ticket : Ticket} (hr : c.restarting = some ticket) :
      Step c (.started fault)
        { c with restarting := none, alive := fault.isNone, reading := fault.isNone }
        [.complete ticket (.restarted fault)]
  | delivered {t : Text} {waiter : Option Ticket} {e : Wire.Envelope Wire.Reply} (hread : c.reading = true)
      (he : Wire.Envelope.read? t = some e) (hp : c.pending.lookup e.id = some waiter) :
      Step c (.line t) { c with pending := c.pending.filter fun call => call.1 ≠ e.id }
        (completeAll [waiter] (.reply e.body))
  | lost (hread : c.reading = true) :
      Step c .lost { c with alive := false, reading := false, pending := [] }
        (completeAll (c.pending.map Prod.snd) .noAnswer)
  | expired {ticket : Ticket} (ha : c.awaits ticket = true) :
      Step c (.expire ticket)
        { c with
          pending := c.pending.map fun call => (call.1,forget ticket call.2)
          queue := c.queue.map (Command.forget ticket) }
        [.complete ticket .timedOut]

variable {c c' : Channel} {sg : Signal} {effects : List Effect} {ticket : Ticket}

theorem takes_iff : c.takes = true ↔ c.stopped = false ∧ c.restarting = none := by
  simp [takes]

theorem step_submit (command : Command) :
    Step c (.submit command) (c.step (.submit command)).1 (c.step (.submit command)).2 := by
  cases ha : c.accepts command with
  | true =>
    have hstep : c.step (.submit command) = ({ c with queue := c.queue ++ [command] },[]) := by
      cases command <;> simp_all [step, submit, accepts]
    rw [hstep]
    exact .enqueued ha
  | false =>
    have hstep : c.step (.submit command) = (c,refusal command) := by
      cases command <;> simp_all [step, submit, accepts, refusal]
    rw [hstep]
    exact .refused ha

theorem step_serve (written : Bool) :
    Step c (.serve written) (c.step (.serve written)).1 (c.step (.serve written)).2 := by
  by_cases ht : c.takes = true
  · have hserve : (c.stopped || c.restarting.isSome) = false := by simpa [takes] using ht
    simp only [step, serve, hserve, Bool.false_eq_true, ↓reduceIte]
    split
    next hq => exact .idle (.inr hq)
    next waiter request queue hq =>
      by_cases ha : c.alive = true
      · cases written with
        | true => simpa [sendCall, ha] using Step.sent ht hq ha
        | false => simpa [sendCall, ha, detach] using Step.failed ht hq ha
      · rw [Bool.not_eq_true] at ha
        simpa [sendCall, ha] using Step.unanswered ht hq ha
    next ticket queue hq => simpa [detach] using Step.replacing ht hq
    next ticket queue hq => simpa [stop, detach] using Step.stopping ht hq
  · have hserve : (c.stopped || c.restarting.isSome) = true := by
      rwa [takes, Bool.not_eq_true', Bool.not_eq_false] at ht
    simp only [step, serve, hserve, ↓reduceIte]
    exact .idle (.inl (Bool.not_eq_true _ ▸ ht))

theorem step_line (t : Text) : Step c (.line t) (c.step (.line t)).1 (c.step (.line t)).2 := by
  by_cases hread : c.reading = true
  · have hstep : c.step (.line t) = c.receive t := if_pos hread
    rw [hstep, receive]
    split
    next he => exact .ignored (fun _ e hsome => by simp [he] at hsome)
    next e he =>
      split
      next hp =>
        refine .ignored (fun _ e' hsome => ?_)
        obtain rfl := Option.some.inj (he.symm.trans hsome)
        exact hp
      next waiter hp => exact .delivered hread he hp
  · have hstep : c.step (.line t) = (c,[]) := if_neg hread
    rw [hstep]
    exact .ignored (fun h => absurd h hread)

/-- Each signal does one of these things. -/
theorem step_spec (c : Channel) (sg : Signal) : Step c sg (c.step sg).1 (c.step sg).2 := by
  cases sg with
  | submit command => exact step_submit command
  | serve written => exact step_serve written
  | line t => exact step_line t
  | started fault =>
    cases hr : c.restarting with
    | none => simpa [step, started, hr] using (Step.notStarting hr : Step c (.started fault) c [])
    | some ticket => simpa [step, started, hr] using Step.started hr
  | lost =>
    by_cases hread : c.reading = true
    · simpa [step, hread, detach] using Step.lost hread
    · simpa [step, hread] using Step.unread (Bool.not_eq_true _ ▸ hread)
  | expire ticket =>
    by_cases ha : c.awaits ticket = true
    · simpa [step, expire, ha] using Step.expired ha
    · simpa [step, expire, ha] using Step.notAwaited (Bool.not_eq_true _ ▸ ha)

/-- A signal does nothing else than `Step` says. -/
theorem Step.step_eq (h : Step c sg c' effects) : c.step sg = (c',effects) := by
  have htakes (ht : c.takes = true) : (c.stopped || c.restarting.isSome) = false := by simpa [takes] using ht
  cases h with
  | idle hi =>
    rcases hi with hi | hi
    · have hbusy : (c.stopped || c.restarting.isSome) = true := by rwa [takes, Bool.not_eq_false'] at hi
      simp only [step, serve, hbusy, ↓reduceIte]
    · simp [step, serve, hi]
  | notStarting hr => simp [step, Channel.started, hr]
  | @ignored t hi =>
    by_cases hread : c.reading = true
    · cases he : (Wire.Envelope.read? t : Option (Wire.Envelope Wire.Reply)) with
      | none => simp [step, hread, receive, he]
      | some e => simp [step, hread, receive, he, hi hread e he]
    · simp [step, hread]
  | unread hread => simp [step, hread]
  | notAwaited ha => simp [step, expire, ha]
  | @enqueued command ha => cases command <;> simp_all [step, submit, accepts]
  | @refused command ha => cases command <;> simp_all [step, submit, accepts, refusal]
  | sent ht hq ha => simp [step, serve, htakes ht, hq, sendCall, ha]
  | failed ht hq ha => simp [step, serve, htakes ht, hq, sendCall, ha, detach]
  | unanswered ht hq ha => simp [step, serve, htakes ht, hq, sendCall, ha]
  | replacing ht hq => simp [step, serve, htakes ht, hq, detach]
  | stopping ht hq => simp [step, serve, htakes ht, hq, stop, detach]
  | started hr => simp [step, Channel.started, hr]
  | delivered hread he hp => simp [step, hread, receive, he, hp]
  | lost hread => simp [step, hread, detach]
  | expired ha => simp [step, expire, ha]

/-! ## Tickets -/

def callers (c : Channel) : List Ticket := c.pending.filterMap Prod.snd ++ c.queue.filterMap Command.caller?

def others (c : Channel) : List Ticket := c.restarting.toList ++ c.queue.filterMap Command.other?

def waiting (c : Channel) : List Ticket := c.callers ++ c.others

def finished (effects : List Effect) : List Ticket := effects.filterMap fun
  | .complete ticket _ => some ticket
  | _ => none

@[simp] theorem finished_nil : finished [] = [] := rfl

@[simp] theorem finished_append (front back : List Effect) :
    finished (front ++ back) = finished front ++ finished back := List.filterMap_append

@[simp] theorem finished_complete (ticket : Ticket) (completion : Completion) (rest : List Effect) :
    finished (.complete ticket completion :: rest) = ticket :: finished rest := rfl

@[simp] theorem finished_write (line : Text) (rest : List Effect) :
    finished (.write line :: rest) = finished rest := rfl

@[simp] theorem finished_kill (rest : List Effect) : finished (.kill :: rest) = finished rest := rfl

@[simp] theorem finished_replaceProcess (rest : List Effect) :
    finished (.replaceProcess :: rest) = finished rest := rfl

@[simp] theorem finished_completeAll (waiters : List (Option Ticket)) (completion : Completion) :
    finished (completeAll waiters completion) = waiters.filterMap id := by
  rw [finished, completeAll, List.filterMap_map]
  exact List.filterMap_some

@[simp] theorem finished_refusal (command : Command) : finished (refusal command) = command.ticket?.toList := by
  cases command with
  | call waiter request => cases waiter <;> rfl
  | restart ticket | shutdown ticket => rfl

@[simp] theorem finished_abandoned (command : Command) : finished (abandoned command) = command.ticket?.toList := by
  cases command with
  | call waiter request => cases waiter <;> rfl
  | restart ticket | shutdown ticket => rfl

theorem count_filterMap_cons {α : Type} (f : α → Option Ticket) (a : α) (l : List α) (ticket : Ticket) :
    ((a :: l).filterMap f).count ticket = (f a).toList.count ticket + (l.filterMap f).count ticket := by
  cases h : f a with
  | none => simp [h]
  | some other =>
    rw [List.filterMap_cons_some h, List.count_cons, Option.toList_some, List.count_singleton]
    omega

theorem count_ticket? (command : Command) (ticket : Ticket) : command.ticket?.toList.count ticket =
    command.caller?.toList.count ticket + command.other?.toList.count ticket := by
  cases command <;> simp [Command.ticket?, Command.caller?, Command.other?]

theorem count_finished_abandoned (queue : List Command) (ticket : Ticket) :
    (finished (queue.flatMap abandoned)).count ticket =
      (queue.filterMap Command.caller?).count ticket + (queue.filterMap Command.other?).count ticket := by
  induction queue with
  | nil => rfl
  | cons command queue ih =>
    rw [List.flatMap_cons, finished_append, finished_abandoned, List.count_append, ih, count_ticket?,
      count_filterMap_cons, count_filterMap_cons]
    omega

/-- What is left of the calls when one of them has been answered. -/
theorem count_filter_pending {pending : List (Nat × Option Ticket)} {id : Nat} {waiter : Option Ticket}
    (hd : (pending.map Prod.fst).Nodup) (hp : pending.lookup id = some waiter) (ticket : Ticket) :
    waiter.toList.count ticket + ((pending.filter fun call => call.1 ≠ id).filterMap Prod.snd).count ticket =
      (pending.filterMap Prod.snd).count ticket := by
  induction pending with
  | nil => cases hp
  | cons call pending ih =>
    obtain ⟨number,other⟩ := call
    rw [List.map_cons, List.nodup_cons] at hd
    rw [count_filterMap_cons]
    by_cases he : number = id
    · subst he
      have hrest : (pending.filter fun call => call.1 ≠ number) = pending := by
        rw [List.filter_eq_self]
        intro call hcall
        have hne : call.1 ≠ number := fun he => hd.1 (List.mem_map.mpr ⟨call,hcall,he⟩)
        exact decide_eq_true hne
      rw [List.lookup_cons_self] at hp
      obtain rfl := Option.some.inj hp
      rw [List.filter_cons_of_neg (by simp), hrest]
    · have hne : (id == number) = false := beq_false_of_ne (Ne.symm he)
      rw [List.lookup_cons, hne] at hp
      have hrest := ih hd.2 hp
      rw [List.filter_cons_of_pos (by simpa using he), count_filterMap_cons]
      omega

theorem filterMap_map_forget {α : Type} {f : α → Option Ticket} {g : α → α}
    (h : ∀ a, f (g a) = forget ticket (f a)) (l : List α) :
    (l.map g).filterMap f = (l.filterMap f).filter (· ≠ ticket) := by
  induction l with
  | nil => rfl
  | cons a l ih =>
    cases hf : f a with
    | none =>
      have hg : f (g a) = none := by simp [h, hf, forget]
      rw [List.map_cons, List.filterMap_cons_none hg, List.filterMap_cons_none hf, ih]
    | some other =>
      by_cases he : other = ticket
      · have hg : f (g a) = none := by simp [h, hf, forget, he]
        rw [List.map_cons, List.filterMap_cons_none hg, List.filterMap_cons_some hf, ih,
          List.filter_cons_of_neg (by simpa using he)]
      · have hg : f (g a) = some other := by simp [h, hf, forget, he]
        rw [List.map_cons, List.filterMap_cons_some hg, List.filterMap_cons_some hf, ih,
          List.filter_cons_of_pos (by simpa using he)]

theorem caller?_forget (command : Command) :
    (Command.forget ticket command).caller? = forget ticket command.caller? := by
  cases command with
  | call waiter request => rfl
  | restart other | shutdown other => simp [Command.forget, Command.caller?, forget]

theorem other?_forget (command : Command) : (Command.forget ticket command).other? = command.other? := by
  cases command <;> rfl

theorem mem_callers_of_awaits (h : c.awaits ticket = true) :
    ticket ∈ c.callers := by
  rw [awaits, Bool.or_eq_true, List.any_eq_true, List.any_eq_true] at h
  rw [callers, List.mem_append, List.mem_filterMap, List.mem_filterMap]
  rcases h with ⟨call,hmem,hcall⟩ | ⟨command,hmem,hcall⟩
  · exact .inl ⟨call,hmem,by simpa using hcall⟩
  · cases command with
    | call waiter request => exact .inr ⟨_,hmem,by simpa [Command.caller?] using hcall⟩
    | restart other | shutdown other => cases hcall

structure Steady (c : Channel) : Prop where
  alive_eq : c.alive = c.reading
  idle : c.alive = false → c.pending = []
  replacing : c.restarting ≠ none → c.alive = false ∧ c.stopped = false
  ended : c.stopped = true → c.alive = false ∧ c.queue = []
  positive : 0 < c.nextId
  numbered : ∀ call ∈ c.pending, call.1 < c.nextId
  distinct : (c.pending.map Prod.fst).Nodup

theorem count_waiting (c : Channel) (ticket : Ticket) : c.waiting.count ticket =
    (c.pending.filterMap Prod.snd).count ticket + (c.queue.filterMap Command.caller?).count ticket +
      (c.restarting.toList.count ticket + (c.queue.filterMap Command.other?).count ticket) := by
  simp only [waiting, callers, others, List.count_append]

theorem waiting_expired (c : Channel) (late : Ticket) :
    ({ c with
       pending := c.pending.map fun call => (call.1,forget late call.2)
       queue := c.queue.map (Command.forget late) } : Channel).waiting =
      c.callers.filter (· ≠ late) ++ c.others := by
  have hcalls : (c.pending.map fun call => (call.1,forget late call.2)).filterMap Prod.snd =
      (c.pending.filterMap Prod.snd).filter (· ≠ late) := filterMap_map_forget (f := Prod.snd) (fun _ => rfl) c.pending
  have hqueue : (c.queue.map (Command.forget late)).filterMap Command.caller? =
      (c.queue.filterMap Command.caller?).filter (· ≠ late) := filterMap_map_forget caller?_forget c.queue
  have hothers : (c.queue.map (Command.forget late)).filterMap Command.other? = c.queue.filterMap Command.other? := by
    rw [List.filterMap_map]
    exact congrArg (c.queue.filterMap ·) (funext other?_forget)
  rw [waiting, callers, others, hcalls, hqueue, hothers, ← List.filter_append]
  rfl

/-- Whoever waited before a step, or has asked for something with it, waits after it or is told how it ended. -/
theorem Step.conserves (h : Step c sg c' effects) (hs : Steady c) (hn : c.callers.Nodup) :
    (finished effects ++ c'.waiting).Perm (sg.ticket?.toList ++ c.waiting) := by
  rw [List.perm_iff_count]
  intro ticket
  have hcount (waiter : Option Ticket) : ([waiter].filterMap id).count ticket = waiter.toList.count ticket := by
    cases waiter <;> rfl
  have hpending : (c.pending.map Prod.snd).filterMap id = c.pending.filterMap Prod.snd := by
    rw [List.filterMap_map]
    rfl
  rw [List.count_append, List.count_append, count_waiting, count_waiting]
  cases h with
  | idle | notStarting | ignored | unread | notAwaited => simp [Signal.ticket?]
  | refused ha => simp [Signal.ticket?]
  | @enqueued command ha =>
    have hone := count_ticket? command ticket
    simp only [finished_nil, Signal.ticket?, List.filterMap_append, List.count_append, count_filterMap_cons,
      List.filterMap_nil, List.count_nil]
    omega
  | sent ht hq ha =>
    simp [Signal.ticket?, hq, count_filterMap_cons, Command.caller?, Command.other?]
    omega
  | unanswered ht hq ha =>
    simp only [hq, count_filterMap_cons, Command.caller?, Command.other?, finished_completeAll, hcount,
      Signal.ticket?, Option.toList_none, List.count_nil]
    omega
  | failed ht hq ha =>
    simp only [hq, count_filterMap_cons, Command.caller?, Command.other?, finished_write, finished_completeAll,
      List.filterMap_append, hpending, List.count_append, hcount, Signal.ticket?, Option.toList_none, List.count_nil,
      List.filterMap_nil]
    omega
  | replacing ht hq =>
    simp only [(takes_iff.mp ht).2, hq, count_filterMap_cons, Command.caller?, Command.other?, finished_append,
      finished_completeAll, finished_replaceProcess, finished_nil, hpending, List.count_append, Signal.ticket?,
      Option.toList_none, List.count_nil, List.filterMap_nil]
    omega
  | stopping ht hq =>
    have hgoodbye : finished (if c.alive then [.write shutdownLine] else []) = [] := by split <;> rfl
    have hqueue := count_finished_abandoned
    simp only [(takes_iff.mp ht).2, hq, count_filterMap_cons, Command.caller?, Command.other?, finished_append,
      finished_completeAll, finished_kill, finished_complete, hgoodbye, hpending, List.count_append, List.count_cons,
      hqueue, Signal.ticket?, Option.toList_none, Option.toList_some, List.count_nil, List.filterMap_nil]
    omega
  | started hr =>
    simp only [hr, finished_complete, finished_nil, Signal.ticket?, Option.toList_none, Option.toList_some,
      List.count_nil]
    omega
  | delivered hread he hp =>
    have hleft := count_filter_pending hs.distinct hp ticket
    simp only [finished_completeAll, hcount, Signal.ticket?, Option.toList_none, List.count_nil]
    omega
  | lost hread =>
    simp only [finished_completeAll, hpending, Signal.ticket?, Option.toList_none, List.count_nil, List.filterMap_nil]
    omega
  | @expired late ha =>
    have hmem := mem_callers_of_awaits ha
    have hfilter : c.callers.erase late = c.callers.filter (· ≠ late) := by
      rw [hn.erase_eq_filter]
      exact List.filter_congr (fun other _ => by by_cases he : other = late <;> simp [he])
    have herase := (List.perm_cons_erase hmem).count_eq ticket
    rw [hfilter, List.count_cons] at herase
    rw [← count_waiting, ← count_waiting, waiting_expired, waiting, List.count_append, List.count_append, herase]
    simp only [finished_complete, finished_nil, List.count_cons, List.count_nil, Signal.ticket?, Option.toList_none]
    omega

/-! ## What every step keeps -/

theorem Steady.start : Steady {} where
  alive_eq := rfl
  idle := by simp
  replacing := by simp
  ended := by simp
  positive := by simp
  numbered := by simp
  distinct := by simp

/-- A channel that nobody reads has no call to answer. -/
theorem Steady.detached {nextId : Nat} {stopped : Bool} {restarting : Option Ticket} {queue : List Command}
    (hpos : 0 < nextId) (hr : restarting ≠ none → stopped = false) (hq : stopped = true → queue = []) :
    Steady ⟨false,false,stopped,restarting,nextId,[],queue⟩ where
  alive_eq := rfl
  idle _ := rfl
  replacing h := ⟨rfl,hr h⟩
  ended h := ⟨rfl,hq h⟩
  positive := hpos
  numbered := by simp
  distinct := by simp

theorem Steady.dequeued {command : Command} {queue : List Command} (hs : Steady c)
    (hq : c.queue = command :: queue) : Steady { c with queue } where
  alive_eq := hs.alive_eq
  idle := hs.idle
  replacing := hs.replacing
  ended h := by
    have hnil := (hs.ended h).2
    rw [hq] at hnil
    cases hnil
  positive := hs.positive
  numbered := hs.numbered
  distinct := hs.distinct

theorem Step.steady (h : Step c sg c' effects) (hs : Steady c) : Steady c' := by
  cases h with
  | idle | notStarting | ignored | unread | notAwaited | refused ha => exact hs
  | @enqueued command ha =>
    refine ⟨hs.alive_eq,hs.idle,hs.replacing,fun hstop => ?_,hs.positive,hs.numbered,hs.distinct⟩
    have hdead := (hs.ended hstop).1
    cases command <;> simp_all [accepts]
  | @sent waiter request queue ht hq ha =>
    have hd := hs.dequeued hq
    refine ⟨hs.alive_eq,fun hdead => ?_,hs.replacing,hd.ended,Nat.succ_pos _,fun call hcall => ?_,?_⟩
    · simp [ha] at hdead
    · rcases List.mem_append.mp hcall with hcall | hcall
      · exact Nat.lt_succ_of_lt (hs.numbered call hcall)
      · obtain rfl := List.mem_singleton.mp hcall
        exact Nat.lt_succ_self _
    · rw [List.map_append, List.nodup_append]
      refine ⟨hs.distinct,by simp,fun id hid other hother => ?_⟩
      obtain ⟨call,hcall,rfl⟩ := List.mem_map.mp hid
      obtain rfl : other = c.nextId := by simpa using hother
      exact Nat.ne_of_lt (hs.numbered call hcall)
  | unanswered ht hq ha => exact hs.dequeued hq
  | failed ht hq ha =>
    obtain ⟨hstop,hnone⟩ := takes_iff.mp ht
    exact .detached (Nat.succ_pos _) (fun h => absurd hnone h) (fun h => by simp [hstop] at h)
  | replacing ht hq =>
    obtain ⟨hstop,-⟩ := takes_iff.mp ht
    exact .detached hs.positive (fun _ => hstop) (fun h => by simp [hstop] at h)
  | stopping ht hq =>
    obtain ⟨-,hnone⟩ := takes_iff.mp ht
    exact .detached hs.positive (fun h => absurd hnone h) (fun _ => rfl)
  | @started fault ticket hr =>
    obtain ⟨hdead,hstop⟩ := hs.replacing (by simp [hr])
    refine ⟨rfl,fun _ => hs.idle hdead,fun h => absurd rfl h,fun h => ?_,hs.positive,hs.numbered,hs.distinct⟩
    simp [hstop] at h
  | @delivered t waiter e hread he hp =>
    have hsub : (c.pending.filter fun call => call.1 ≠ e.id).Sublist c.pending := List.filter_sublist
    refine ⟨hs.alive_eq,fun hdead => ?_,hs.replacing,hs.ended,hs.positive,fun call hcall => ?_,?_⟩
    · rw [hs.idle hdead, List.filter_nil]
    · exact hs.numbered call (hsub.subset hcall)
    · exact hs.distinct.sublist (hsub.map _)
  | lost hread =>
    exact .detached hs.positive (fun h => (hs.replacing h).2) (fun h => (hs.ended h).2)
  | expired ha =>
    refine ⟨hs.alive_eq,fun hdead => ?_,hs.replacing,fun hstop => ⟨(hs.ended hstop).1,?_⟩,hs.positive,
      fun call hcall => ?_,?_⟩
    · rw [hs.idle hdead, List.map_nil]
    · rw [(hs.ended hstop).2, List.map_nil]
    · obtain ⟨old,hold,rfl⟩ := List.mem_map.mp hcall
      exact hs.numbered old hold
    · rw [List.map_map]
      exact hs.distinct

theorem Step.mem_others (h : Step c sg c' effects) (ht : ticket ∈ c'.others) :
    ticket ∈ c.others ∨ ∃ command, sg = .submit command ∧ command.other? = some ticket := by
  rw [others, List.mem_append, List.mem_filterMap] at ht ⊢
  cases h with
  | idle | notStarting | ignored | unread | notAwaited | refused ha | delivered | lost => exact .inl ht
  | @enqueued command ha =>
    rcases ht with ht | ⟨other,hmem,he⟩
    · exact .inl (.inl ht)
    · rcases List.mem_append.mp hmem with hmem | hmem
      · exact .inl (.inr ⟨other,hmem,he⟩)
      · obtain rfl := List.mem_singleton.mp hmem
        exact .inr ⟨other,rfl,he⟩
  | sent ht' hq ha | failed ht' hq ha | unanswered ht' hq ha =>
    refine .inl (ht.imp id ?_)
    rintro ⟨other,hmem,he⟩
    exact ⟨other,hq ▸ List.mem_cons_of_mem _ hmem,he⟩
  | replacing ht' hq =>
    refine .inl (.inr ?_)
    rcases ht with ht | ⟨other,hmem,he⟩
    · exact ⟨_,hq ▸ List.mem_cons_self,by simpa [Command.other?, eq_comm] using ht⟩
    · exact ⟨other,hq ▸ List.mem_cons_of_mem _ hmem,he⟩
  | stopping ht' hq => exact .inl (ht.imp id (fun ⟨other,hmem,_⟩ => absurd hmem List.not_mem_nil))
  | started hr => exact .inl (.inr (ht.resolve_left (by simp)))
  | expired ha =>
    refine .inl (ht.imp id ?_)
    rintro ⟨other,hmem,he⟩
    obtain ⟨old,hold,rfl⟩ := List.mem_map.mp hmem
    exact ⟨old,hold,by rwa [other?_forget] at he⟩

theorem Step.nextId_eq (h : Step c sg c' effects) (hsg : ∀ written, sg ≠ .serve written) :
    c'.nextId = c.nextId := by
  cases h with
  | idle | sent | failed | unanswered | replacing | stopping => exact absurd rfl (hsg _)
  | notStarting | ignored | unread | notAwaited | enqueued | refused | started | delivered | lost | expired => rfl

@[simp] theorem complete_mem_completeAll {waiters : List (Option Ticket)} {completion completion' : Completion} :
    .complete ticket completion ∈ completeAll waiters completion' ↔ some ticket ∈ waiters ∧ completion' = completion := by
  simp [completeAll]

theorem write_not_mem_completeAll (line : Text) (waiters : List (Option Ticket)) (completion : Completion) :
    .write line ∉ completeAll waiters completion := by
  simp [completeAll]

theorem write_not_mem_abandoned (line : Text) (command : Command) : .write line ∉ abandoned command := by
  cases command <;> simp [abandoned, write_not_mem_completeAll]

theorem write_not_mem_refusal (line : Text) (command : Command) : .write line ∉ refusal command := by
  cases command <;> simp [refusal, write_not_mem_completeAll]

/-- Only the agent writes. -/
theorem Step.serve_of_write {line : Text} (h : Step c sg c' effects) (hw : .write line ∈ effects) :
    ∃ written, sg = .serve written := by
  cases h with
  | idle | sent | failed | unanswered | replacing | stopping => exact ⟨_,rfl⟩
  | notStarting | ignored | unread | notAwaited | enqueued ha | started | expired => simp at hw
  | refused ha => exact absurd hw (write_not_mem_refusal _ _)
  | delivered | lost => exact absurd hw (write_not_mem_completeAll _ _ _)

/-! ## Calls that wait for a reply -/

theorem ne_of_lookup_eq_none {pending : List (Nat × Option Ticket)} {id : Nat} (hp : pending.lookup id = none)
    {call : Nat × Option Ticket} (hcall : call ∈ pending) : id ≠ call.1 := by
  have hne := List.lookup_eq_none_iff.mp hp call hcall
  simpa using hne

theorem lookup_of_mem {pending : List (Nat × Option Ticket)} {id : Nat} {waiter : Option Ticket}
    (hd : (pending.map Prod.fst).Nodup) (hcall : (id,waiter) ∈ pending) : pending.lookup id = some waiter := by
  induction pending with
  | nil => cases hcall
  | cons first pending ih =>
    rw [List.map_cons, List.nodup_cons] at hd
    rcases List.mem_cons.mp hcall with he | hcall
    · subst he
      exact List.lookup_cons_self
    · have hne : id ≠ first.1 := by
        intro he
        exact hd.1 (List.mem_map.mpr ⟨_,hcall,he⟩)
      rw [List.lookup_cons, beq_false_of_ne hne]
      exact ih hd.2 hcall

/-- A pending call has just been sent, or it was pending before and no line with its number has come. -/
theorem Step.mem_pending {call : Nat × Option Ticket} (h : Step c sg c' effects) (hcall : call ∈ c'.pending) :
    (∃ waiter request queue, sg = .serve true ∧ c.queue = .call waiter request :: queue ∧ c.takes = true ∧
        c.alive = true ∧ call = (c.nextId,waiter)) ∨
      ∃ old ∈ c.pending, call.1 = old.1 ∧ (call.2 = old.2 ∨ call.2 = none) ∧
        ∀ t (e : Wire.Envelope Wire.Reply), sg = .line t → c.reading = true → Wire.Envelope.read? t = some e →
          e.id ≠ call.1 := by
  cases h with
  | idle | notStarting | unread | notAwaited | enqueued ha | refused ha | unanswered | started =>
    exact .inr ⟨call,hcall,rfl,.inl rfl,by simp⟩
  | @ignored t hi =>
    refine .inr ⟨call,hcall,rfl,.inl rfl,fun t' e he hread hr => ?_⟩
    obtain rfl := Signal.line.inj he
    exact ne_of_lookup_eq_none (hi hread e hr) hcall
  | @sent waiter request queue ht hq ha =>
    rcases List.mem_append.mp hcall with hcall | hcall
    · exact .inr ⟨call,hcall,rfl,.inl rfl,by simp⟩
    · exact .inl ⟨waiter,request,queue,rfl,hq,ht,ha,List.mem_singleton.mp hcall⟩
  | failed | replacing | stopping | lost => cases hcall
  | @delivered t waiter e hread he hp =>
    obtain ⟨hmem,hne⟩ := List.mem_filter.mp hcall
    refine .inr ⟨call,hmem,rfl,.inl rfl,fun t' e' ht _ hr => ?_⟩
    obtain rfl := Signal.line.inj ht
    obtain rfl := Option.some.inj (he.symm.trans hr)
    exact Ne.symm (of_decide_eq_true hne)
  | @expired late ha =>
    obtain ⟨old,hold,rfl⟩ := List.mem_map.mp hcall
    refine .inr ⟨old,hold,rfl,?_,by simp⟩
    by_cases he : old.2 = some late
    · exact .inr (by simp [forget, he])
    · exact .inl (by simp [forget, he])

/-- A call goes on waiting for its reply until it is completed. -/
theorem Step.pending_of_mem {number : Nat} (h : Step c sg c' effects) (hs : Steady c)
    (hcall : (number,some ticket) ∈ c.pending) : ticket ∈ finished effects ∨ (number,some ticket) ∈ c'.pending := by
  have hall : ticket ∈ c.pending.filterMap Prod.snd := List.mem_filterMap.mpr ⟨_,hcall,rfl⟩
  have hdone : ticket ∈ (c.pending.map Prod.snd).filterMap id := by
    rw [List.filterMap_map]
    exact hall
  cases h with
  | idle | notStarting | ignored | unread | notAwaited | enqueued ha | refused ha | unanswered | started =>
    exact .inr hcall
  | sent ht hq ha => exact .inr (List.mem_append_left _ hcall)
  | failed ht hq ha =>
    left
    rw [finished_write, finished_completeAll, List.filterMap_append]
    exact List.mem_append_left _ hdone
  | replacing ht hq =>
    left
    rw [finished_append, finished_completeAll]
    exact List.mem_append_left _ hdone
  | stopping ht hq =>
    left
    rw [finished_append, finished_append, finished_completeAll]
    exact List.mem_append_left _ (List.mem_append_right _ hdone)
  | lost hread => exact .inl (by rwa [finished_completeAll])
  | @delivered t waiter e hread he hp =>
    by_cases hid : number = e.id
    · subst hid
      obtain rfl := Option.some.inj (hp.symm.trans (lookup_of_mem hs.distinct hcall))
      exact .inl (by simp)
    · exact .inr (List.mem_filter.mpr ⟨hcall,by simpa using hid⟩)
  | @expired late ha =>
    by_cases he : ticket = late
    · exact .inl (by simp [he])
    · exact .inr (List.mem_map.mpr ⟨_,hcall,by simp [forget, he]⟩)

/-- A reply is delivered on a line that brings it, to the call with its number. -/
theorem Step.reply {r : Wire.Reply} (h : Step c sg c' effects) (hr : .complete ticket (.reply r) ∈ effects) :
    ∃ t id, sg = .line t ∧ Wire.Envelope.read? t = some ⟨id,r⟩ ∧ (id,some ticket) ∈ c.pending ∧
      effects = [.complete ticket (.reply r)] := by
  cases h with
  | idle | notStarting | ignored | unread | notAwaited | enqueued ha => cases hr
  | @refused command ha => cases command <;> simp [refusal, completeAll] at hr
  | sent | started | expired => simp at hr
  | failed | unanswered | lost | replacing => simp [completeAll] at hr
  | @stopping written other queue ht hq =>
    rw [List.mem_append, List.mem_append] at hr
    rcases hr with (hr | hr) | hr
    · split at hr <;> simp at hr
    · simp [completeAll] at hr
    · simp only [List.mem_cons, reduceCtorEq, Effect.complete.injEq, and_false, false_or, List.mem_flatMap] at hr
      obtain ⟨command,-,hr⟩ := hr
      cases command <;> simp [abandoned, completeAll] at hr
  | @delivered t waiter e hread he hp =>
    obtain ⟨id,body⟩ := e
    cases waiter with
    | none => simp [completeAll] at hr
    | some other =>
      obtain ⟨rfl,rfl⟩ : ticket = other ∧ r = body := by simpa [completeAll] using hr
      obtain ⟨front,back,hsplit,-⟩ := List.lookup_eq_some_iff.mp hp
      exact ⟨t,id,rfl,he,by simp [hsplit],rfl⟩

/-- Who waits for a reply is told nothing else than how the call ended. -/
theorem Step.of_complete {completion : Completion} (h : Step c sg c' effects)
    (hc : .complete ticket completion ∈ effects) : ticket ∈ c.others ∨ sg.ticket? = some ticket ∨
      completion = .noAnswer ∨ completion = .timedOut ∨ ∃ r, completion = .reply r := by
  have hqueued {command : Command} (hmem : command ∈ c.queue) (he : command.other? = some ticket) :
      ticket ∈ c.others := List.mem_append_right _ (List.mem_filterMap.mpr ⟨command,hmem,he⟩)
  cases h with
  | idle | notStarting | ignored | unread | notAwaited | enqueued ha => cases hc
  | sent => simp at hc
  | @refused command ha =>
    refine .inr (.inl ?_)
    cases command <;> simp_all [refusal, Signal.ticket?, Command.ticket?]
  | failed | unanswered | lost | replacing => simp_all
  | expired => simp_all
  | delivered hread he hp => exact .inr (.inr (.inr (.inr ⟨_,(complete_mem_completeAll.mp hc).2.symm⟩)))
  | @started fault other hr =>
    left
    simp_all [others]
  | @stopping written other queue ht hq =>
    rw [List.mem_append, List.mem_append] at hc
    rcases hc with (hc | hc) | hc
    · split at hc <;> simp at hc
    · exact .inr (.inr (.inl (complete_mem_completeAll.mp hc).2.symm))
    · rcases List.mem_cons.mp hc with he | hc
      · cases he
      rcases List.mem_cons.mp hc with he | hc
      · obtain ⟨rfl,-⟩ := Effect.complete.inj he
        exact .inl (hqueued (hq ▸ List.mem_cons_self) rfl)
      · obtain ⟨command,hmem,hc⟩ := List.mem_flatMap.mp hc
        have hmem : command ∈ c.queue := hq ▸ List.mem_cons_of_mem _ hmem
        cases command with
        | call waiter request => exact .inr (.inr (.inl (complete_mem_completeAll.mp hc).2.symm))
        | restart asked | shutdown asked =>
          obtain ⟨rfl,-⟩ := Effect.complete.inj (List.mem_singleton.mp hc)
          exact .inl (hqueued hmem rfl)

/-- A dead channel writes nothing, and stays dead until a process has started. -/
theorem Step.dead (h : Step c sg c' effects) (hs : Steady c) (hdead : c.alive = false) :
    (sg ≠ .started none → c'.alive = false) ∧ ∀ line, .write line ∉ effects := by
  have hread : c.reading = false := hs.alive_eq ▸ hdead
  cases h with
  | idle | notStarting | ignored | unread | notAwaited | enqueued ha => exact ⟨fun _ => hdead,by simp⟩
  | refused ha => exact ⟨fun _ => hdead,fun line => write_not_mem_refusal _ _⟩
  | sent ht hq ha | failed ht hq ha => simp [hdead] at ha
  | delivered hread' | lost hread' => simp [hread] at hread'
  | unanswered => exact ⟨fun _ => hdead,fun line => write_not_mem_completeAll _ _ _⟩
  | replacing => exact ⟨fun _ => rfl,by simp [write_not_mem_completeAll]⟩
  | stopping => exact ⟨fun _ => rfl,by simp [hdead, write_not_mem_completeAll, write_not_mem_abandoned]⟩
  | @started fault => exact ⟨fun hf => by cases fault <;> simp_all,by simp⟩
  | expired => exact ⟨fun _ => hdead,by simp⟩

end Channel
end StatementPad
