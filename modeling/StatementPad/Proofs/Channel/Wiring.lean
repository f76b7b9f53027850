import Mathlib.Data.List.Range
import Mathlib.Logic.Function.Basic
import StatementPad.Proofs.Channel.Steps

/-! # A channel and its processes

Callers, the agent and the processes take their steps in any order, and a history tells what has passed between
them. The agent writes to the process that was started last and reads what that one has written, piece by piece;
a process that has been replaced may still write, but there is nobody to read it.
-/
namespace StatementPad.Channel

inductive Output where
  | line (t : Text)
  /-- The end of the output, or something that is no text. -/
  | lost
  deriving DecidableEq, Repr

inductive Event where
  /-- A caller that has found the channel alive has put its call into the queue. -/
  | called (ticket : Ticket)
  /-- A call has been given its number, for a process to answer. -/
  | sent (process id : Nat) (waiter : Option Ticket) (request : Wire.Request)
  | wrote (process : Nat) (line : Text)
  | read (process : Nat) (output : Output)
  /-- A new process has taken the place of the one before. -/
  | replaced (process : Nat)
  | completed (ticket : Ticket) (completion : Completion)
  deriving DecidableEq, Repr

/-- What callers and processes notice of the effects of a step. -/
def told (process : Nat) (effects : List Effect) : List Event := effects.filterMap fun
  | .write line => some (.wrote process line)
  | .complete ticket completion => some (.completed ticket completion)
  | .replaceProcess | .kill => none

def accepted (c : Channel) : Command → Option Event
  | .call (some ticket) _ => if c.alive then some (.called ticket) else none
  | _ => none

def sends (c : Channel) (process : Nat) : Option Event :=
  match c.queue with
  | .call waiter request :: _ => if c.takes && c.alive then some (.sent process c.nextId waiter request) else none
  | _ => none

def completions (h : List Event) : List Ticket := h.filterMap fun
  | .completed ticket _ => some ticket
  | _ => none

def numbers (h : List Event) : List Nat := h.filterMap fun
  | .sent _ id _ _ => some id
  | _ => none

section
variable {h : List Event} {ticket : Ticket} {process : Nat}

@[simp] theorem completions_append (h news : List Event) :
    completions (h ++ news) = completions h ++ completions news := List.filterMap_append

@[simp] theorem numbers_append (h news : List Event) : numbers (h ++ news) = numbers h ++ numbers news :=
  List.filterMap_append

@[simp] theorem completions_nil : completions [] = [] := rfl
@[simp] theorem completions_called (ticket : Ticket) : completions (.called ticket :: h) = completions h := rfl

@[simp] theorem numbers_nil : numbers [] = [] := rfl
@[simp] theorem numbers_called (ticket : Ticket) : numbers (.called ticket :: h) = numbers h := rfl

theorem mem_completions : ticket ∈ completions h ↔ ∃ completion, .completed ticket completion ∈ h := by
  rw [completions, List.mem_filterMap]
  constructor
  · rintro ⟨event,hmem,he⟩
    cases event with
    | completed other completion =>
      obtain rfl := Option.some.inj he
      exact ⟨completion,hmem⟩
    | called other | sent p id waiter request | wrote p line | read p output | replaced p => cases he
  · rintro ⟨completion,hmem⟩
    exact ⟨_,hmem,rfl⟩

theorem mem_numbers {id : Nat} : id ∈ numbers h ↔ ∃ p waiter request, .sent p id waiter request ∈ h := by
  rw [numbers, List.mem_filterMap]
  constructor
  · rintro ⟨event,hmem,he⟩
    cases event with
    | sent p number waiter request =>
      obtain rfl := Option.some.inj he
      exact ⟨p,waiter,request,hmem⟩
    | called other | completed other completion | wrote p line | read p output | replaced p => cases he
  · rintro ⟨p,waiter,request,hmem⟩
    exact ⟨_,hmem,rfl⟩

theorem mem_told {effects : List Effect} {event : Event} : event ∈ told process effects ↔
    (∃ line, event = .wrote process line ∧ .write line ∈ effects) ∨
      ∃ ticket completion, event = .completed ticket completion ∧ .complete ticket completion ∈ effects := by
  rw [told, List.mem_filterMap]
  constructor
  · rintro ⟨effect,hmem,he⟩
    cases effect with
    | write line => exact .inl ⟨line,(Option.some.inj he).symm,hmem⟩
    | complete ticket completion => exact .inr ⟨ticket,completion,(Option.some.inj he).symm,hmem⟩
    | replaceProcess | kill => cases he
  · rintro (⟨line,rfl,hmem⟩ | ⟨ticket,completion,rfl,hmem⟩)
    · exact ⟨_,hmem,rfl⟩
    · exact ⟨_,hmem,rfl⟩

@[simp] theorem completions_told (process : Nat) (effects : List Effect) :
    completions (told process effects) = finished effects := by
  rw [completions, told, List.filterMap_filterMap, finished]
  congr 1
  funext effect
  cases effect <;> rfl

@[simp] theorem numbers_told (process : Nat) (effects : List Effect) : numbers (told process effects) = [] := by
  rw [numbers, told, List.filterMap_filterMap, List.filterMap_eq_nil_iff]
  intro effect _
  cases effect <;> rfl

/-- A line goes to the process with each call that is sent. Another one goes to it only when the agent ends. -/
theorem Step.serve_sends {c c' : Channel} {written : Bool} {effects : List Effect}
    (h : Step c (.serve written) c' effects) (process : Nat) :
    (c.sends process = none ∧ c'.nextId = c.nextId ∧ ∀ line, .write line ∈ effects → line = shutdownLine) ∨
      ∃ waiter request rest, c.sends process = some (.sent process c.nextId waiter request) ∧
        c'.nextId = c.nextId + 1 ∧ effects = .write (Wire.Envelope.mk c.nextId request).write :: rest ∧
        ∀ line, .write line ∉ rest := by
  cases h with
  | idle hi =>
    left
    rcases hi with hi | hi <;> simp [sends, hi]
    split <;> rfl
  | @sent waiter request queue ht hq ha =>
    exact .inr ⟨waiter,request,[],by simp [sends, hq, ht, ha],rfl,rfl,by simp⟩
  | @failed waiter request queue ht hq ha =>
    exact .inr ⟨waiter,request,_,by simp [sends, hq, ht, ha],rfl,rfl,fun line => write_not_mem_completeAll _ _ _⟩
  | unanswered ht hq ha =>
    exact .inl ⟨by simp [sends, hq, ha],rfl,fun line hline => absurd hline (write_not_mem_completeAll _ _ _)⟩
  | replacing ht hq =>
    refine .inl ⟨by simp [sends, hq],rfl,fun line hline => ?_⟩
    simp [write_not_mem_completeAll] at hline
  | stopping ht hq =>
    refine .inl ⟨by simp [sends, hq],rfl,fun line hline => ?_⟩
    by_cases ha : c.alive = true
    · simpa [ha, write_not_mem_completeAll, write_not_mem_abandoned] using hline
    · simp [ha, write_not_mem_completeAll, write_not_mem_abandoned] at hline

end

structure Wiring where
  channel : Channel := {}
  /-- The process that was started last; they are numbered in the order of their start. -/
  process : Nat := 0
  /-- What each process has written and nobody has read. -/
  unread : Nat → List Output := fun _ => []
  /-- The number of tickets that were given out. -/
  tickets : Nat := 0

namespace Wiring

/-- Whether a signal can come now: tickets are new, and what is read is what the process has written. -/
def Possible (s : Wiring) : Signal → Prop
  | .submit command => command.ticket? = some s.tickets
  | .serve _ | .expire _ => True
  | .started _ => s.channel.restarting ≠ none
  | .line t => s.channel.reading = true ∧ (s.unread s.process).head? = some (.line t)
  | .lost => s.channel.reading = true ∧ (s.unread s.process).head? = some .lost

instance (s : Wiring) : (sg : Signal) → Decidable (s.Possible sg)
  | .submit command => inferInstanceAs (Decidable (command.ticket? = some s.tickets))
  | .serve _ | .expire _ => inferInstanceAs (Decidable True)
  | .started _ => inferInstanceAs (Decidable (s.channel.restarting ≠ none))
  | .line t =>
    inferInstanceAs (Decidable (s.channel.reading = true ∧ (s.unread s.process).head? = some (.line t)))
  | .lost => inferInstanceAs (Decidable (s.channel.reading = true ∧ (s.unread s.process).head? = some .lost))

def after (s : Wiring) (sg : Signal) : Wiring where
  channel := (s.channel.step sg).1
  process := match sg with
    | .started none => s.process + 1
    | _ => s.process
  unread := match sg with
    | .line _ | .lost => Function.update s.unread s.process (s.unread s.process).tail
    | _ => s.unread
  tickets := match sg with
    | .submit _ => s.tickets + 1
    | _ => s.tickets

def noted (s : Wiring) : Signal → Option Event
  | .submit command => s.channel.accepted command
  | .serve _ => s.channel.sends s.process
  | .started none => some (.replaced (s.process + 1))
  | .started (some _) | .expire _ => none
  | .line t => some (.read s.process (.line t))
  | .lost => some (.read s.process .lost)

def news (s : Wiring) (sg : Signal) : List Event := (s.noted sg).toList ++ told s.process (s.channel.step sg).2

inductive Turn (s : Wiring) : List Event → Wiring → Prop where
  | signal (sg : Signal) (hp : s.Possible sg) : Turn s (s.news sg) (s.after sg)
  /-- A caller that found the channel alive some time ago puts its call into the queue only now. -/
  | late (request : Wire.Request) (hs : s.channel.stopped = false) :
      Turn s [.called s.tickets] { s with
        channel := { s.channel with queue := s.channel.queue ++ [.call (some s.tickets) request] }
        tickets := s.tickets + 1 }
  | write (process : Nat) (output : Output) (hp : process ≤ s.process) :
      Turn s [] { s with unread := Function.update s.unread process (s.unread process ++ [output]) }

inductive Reaches : Wiring → List Event → Prop where
  | start : Reaches {} []
  | next {s s' : Wiring} {h news : List Event} (hr : Reaches s h) (ht : Turn s news s') : Reaches s' (h ++ news)

variable {s s' : Wiring} {h news : List Event} {ticket : Ticket} {sg : Signal}

/-! ## Events -/

@[simp] theorem after_channel (s : Wiring) (sg : Signal) : (s.after sg).channel = (s.channel.step sg).1 := rfl

inductive Noted (s : Wiring) : Signal → Event → Prop where
  | called {ticket : Ticket} {request : Wire.Request} (ha : s.channel.alive = true) :
      Noted s (.submit (.call (some ticket) request)) (.called ticket)
  | sent {written : Bool} {waiter : Option Ticket} {request : Wire.Request} {queue : List Command}
      (ht : s.channel.takes = true) (hq : s.channel.queue = .call waiter request :: queue)
      (ha : s.channel.alive = true) :
      Noted s (.serve written) (.sent s.process s.channel.nextId waiter request)
  | replaced : Noted s (.started none) (.replaced (s.process + 1))
  | line {t : Text} : Noted s (.line t) (.read s.process (.line t))
  | lost : Noted s .lost (.read s.process .lost)

theorem noted_spec {event : Event} (h : s.noted sg = some event) : Noted s sg event := by
  cases sg with
  | submit command =>
    simp only [noted, accepted] at h
    split at h
    next ticket request =>
      obtain ⟨ha,he⟩ := Option.ite_none_right_eq_some.mp h
      exact Option.some.inj he ▸ .called ha
    next => cases h
  | serve written =>
    simp only [noted, sends] at h
    split at h
    next waiter request queue hq =>
      obtain ⟨hboth,he⟩ := Option.ite_none_right_eq_some.mp h
      obtain ⟨ht,ha⟩ := Bool.and_eq_true_iff.mp hboth
      exact Option.some.inj he ▸ .sent ht hq ha
    next => cases h
  | started fault =>
    cases fault with
    | none => exact Option.some.inj h ▸ .replaced
    | some fault => cases h
  | line t => exact Option.some.inj h ▸ .line
  | lost => exact Option.some.inj h ▸ .lost
  | expire other => cases h

theorem mem_news {event : Event} (h : event ∈ s.news sg) :
    Noted s sg event ∨ event ∈ told s.process (s.channel.step sg).2 := by
  rcases List.mem_append.mp h with h | h
  · exact .inl (noted_spec (Option.mem_toList.mp h))
  · exact .inr h

theorem called_mem_news (h : .called ticket ∈ s.news sg) : ∃ request, sg = .submit (.call (some ticket) request) := by
  rcases mem_news h with h | h
  · cases h with
    | called ha => exact ⟨_,rfl⟩
  · simp [mem_told] at h

@[simp] theorem completions_news (s : Wiring) (sg : Signal) :
    completions (s.news sg) = finished (s.channel.step sg).2 := by
  rw [news, completions_append, completions_told]
  cases hn : s.noted sg with
  | none => rfl
  | some event => cases noted_spec hn <;> rfl

/-- Each number is given once. -/
theorem numbers_news (s : Wiring) (sg : Signal) :
    numbers (s.news sg) = [] ∧ (s.channel.step sg).1.nextId = s.channel.nextId ∨
      numbers (s.news sg) = [s.channel.nextId] ∧ (s.channel.step sg).1.nextId = s.channel.nextId + 1 := by
  have hstep := s.channel.step_spec sg
  rw [news, numbers_append, numbers_told, List.append_nil]
  by_cases hserve : ∃ written, sg = .serve written
  · obtain ⟨written,rfl⟩ := hserve
    rcases hstep.serve_sends s.process with ⟨he,hid,-⟩ | ⟨waiter,request,rest,he,hid,-⟩
    · exact .inl ⟨by rw [noted, he]; rfl,hid⟩
    · exact .inr ⟨by rw [noted, he]; rfl,hid⟩
  · have hid := hstep.nextId_eq (fun written he => hserve ⟨written,he⟩)
    refine .inl ⟨?_,hid⟩
    cases hn : s.noted sg with
    | none => rfl
    | some event =>
      cases noted_spec hn with
      | sent => exact absurd ⟨_,rfl⟩ hserve
      | called | replaced | line | lost => rfl

/-! ## Tickets and numbers -/

theorem range_tickets_after (hp : s.Possible sg) :
    List.range (s.after sg).tickets = List.range s.tickets ++ sg.ticket?.toList := by
  cases sg with
  | submit command =>
    have hticket : command.ticket? = some s.tickets := hp
    rw [Signal.ticket?, hticket]
    exact List.range_succ
  | serve written | started fault | line t | lost | expire ticket => exact (List.append_nil _).symm

structure Sound (s : Wiring) (h : List Event) : Prop where
  steady : s.channel.Steady
  /-- Every ticket waits or has been told how it ended, and only once. -/
  conserved : (completions h ++ s.channel.waiting).Perm (List.range s.tickets)
  known : ∀ ticket, .called ticket ∈ h → ticket < s.tickets
  apart : ∀ ticket ∈ s.channel.others, .called ticket ∉ h
  increasing : (numbers h).Pairwise (· < ·)
  bounded : ∀ id ∈ numbers h, 0 < id ∧ id < s.channel.nextId

theorem Sound.start : Sound {} [] where
  steady := .start
  conserved := .refl []
  known := by simp
  apart := by simp [others]
  increasing := .nil
  bounded := by simp

theorem Sound.nodup (hs : Sound s h) : (completions h ++ s.channel.waiting).Nodup :=
  hs.conserved.nodup_iff.mpr List.nodup_range

theorem Sound.nodup_callers (hs : Sound s h) : s.channel.callers.Nodup :=
  (List.nodup_append.mp (List.nodup_append.mp hs.nodup).2.1).1

theorem Sound.waiting_lt (hs : Sound s h) (ht : ticket ∈ s.channel.waiting) : ticket < s.tickets :=
  List.mem_range.mp (hs.conserved.subset (List.mem_append_right _ ht))

theorem Sound.signal (hs : Sound s h) (hp : s.Possible sg) : Sound (s.after sg) (h ++ s.news sg) := by
  have hstep := s.channel.step_spec sg
  have hfresh (ticket : Ticket) (hnew : .called ticket ∈ s.news sg) : ticket = s.tickets := by
    obtain ⟨request,rfl⟩ := called_mem_news hnew
    exact Option.some.inj hp
  refine {
    steady := hstep.steady hs.steady
    conserved := ?conserved
    known := ?known
    apart := ?apart
    increasing := ?increasing
    bounded := ?bounded }
  case conserved =>
    have hmove := hstep.conserves hs.steady hs.nodup_callers
    rw [completions_append, completions_news, List.append_assoc, range_tickets_after hp]
    refine (hmove.append_left _).trans ?_
    rw [← List.append_assoc]
    refine (List.perm_append_comm.append_right _).trans ?_
    rw [List.append_assoc]
    exact List.perm_append_comm.trans (hs.conserved.append_right _)
  case known =>
    intro ticket ht
    rcases List.mem_append.mp ht with ht | ht
    · exact (hs.known ticket ht).trans_le (by cases sg <;> simp [after])
    · obtain rfl := hfresh ticket ht
      obtain ⟨request,rfl⟩ := called_mem_news ht
      exact Nat.lt_succ_self _
  case apart =>
    intro ticket ht
    rw [List.mem_append, not_or]
    rcases hstep.mem_others ht with hbefore | ⟨command,rfl,hother⟩
    · refine ⟨hs.apart ticket hbefore,?_⟩
      intro hnew
      have hlt := hs.waiting_lt (List.mem_append_right _ hbefore)
      rw [hfresh ticket hnew] at hlt
      exact absurd hlt (lt_irrefl _)
    · have hticket : ticket = s.tickets := by
        cases command <;> simp_all [Command.other?, Command.ticket?, Possible]
      subst hticket
      constructor
      · intro hold
        exact absurd (hs.known _ hold) (lt_irrefl _)
      · intro hnew
        obtain ⟨request,he⟩ := called_mem_news hnew
        rw [Signal.submit.inj he] at hother
        cases hother
  case increasing =>
    rw [numbers_append, List.pairwise_append]
    rcases s.numbers_news sg with ⟨hn,-⟩ | ⟨hn,-⟩
    · simpa [hn] using hs.increasing
    · refine ⟨hs.increasing,by simp [hn],?_⟩
      intro id hid other hother
      obtain rfl : other = s.channel.nextId := by simpa [hn] using hother
      exact (hs.bounded id hid).2
  case bounded =>
    intro id hid
    have hpos := hs.steady.positive
    rw [numbers_append, List.mem_append] at hid
    change 0 < id ∧ id < (s.channel.step sg).1.nextId
    rcases s.numbers_news sg with ⟨hn,he⟩ | ⟨hn,he⟩
    · rw [hn, or_iff_left List.not_mem_nil] at hid
      rw [he]
      exact hs.bounded id hid
    · rw [hn, List.mem_singleton] at hid
      rcases hid with hid | rfl
      · have hb := hs.bounded id hid
        omega
      · omega

theorem Sound.late (hs : Sound s h) (request : Wire.Request) (hstop : s.channel.stopped = false) :
    Sound { s with
        channel := { s.channel with queue := s.channel.queue ++ [.call (some s.tickets) request] }
        tickets := s.tickets + 1 } (h ++ [.called s.tickets]) := by
  have hst := hs.steady
  have hothers : ({ s.channel with queue := s.channel.queue ++ [.call (some s.tickets) request] } : Channel).others =
      s.channel.others := by simp [others, Command.other?]
  have hended (hstopped : s.channel.stopped = true) : s.channel.alive = false ∧
      s.channel.queue ++ [.call (some s.tickets) request] = [] := by simp [hstop] at hstopped
  refine {
    steady := ⟨hst.alive_eq,hst.idle,hst.replacing,hended,hst.positive,hst.numbered,hst.distinct⟩
    conserved := ?conserved
    known := ?known
    apart := ?apart
    increasing := by simpa using hs.increasing
    bounded := fun id hid => hs.bounded id (by simpa using hid) }
  case conserved =>
    refine List.Perm.trans ?_ ((hs.conserved.append_right [s.tickets]).trans (by rw [List.range_succ]))
    rw [List.perm_iff_count]
    intro ticket
    simp only [completions_append, completions_called, completions_nil, List.append_nil, List.count_append,
      count_waiting, List.filterMap_append, count_filterMap_cons, Command.caller?, Command.other?, Option.toList_some,
      Option.toList_none, List.filterMap_nil, List.count_nil]
    omega
  case known =>
    intro ticket ht
    rcases List.mem_append.mp ht with ht | ht
    · exact Nat.lt_succ_of_lt (hs.known ticket ht)
    · obtain rfl : ticket = s.tickets := by simpa using ht
      exact Nat.lt_succ_self _
  case apart =>
    intro ticket ht
    rw [hothers] at ht
    rw [List.mem_append, not_or]
    refine ⟨hs.apart ticket ht,?_⟩
    intro hnew
    obtain rfl : ticket = s.tickets := by simpa using hnew
    exact absurd (hs.waiting_lt (List.mem_append_right _ ht)) (lt_irrefl _)

theorem Turn.sound (ht : Turn s news s') (hs : Sound s h) : Sound s' (h ++ news) := by
  cases ht with
  | signal sg hp => exact hs.signal hp
  | late request hstop => exact hs.late request hstop
  | write process output hp =>
    rw [List.append_nil]
    exact ⟨hs.steady,hs.conserved,hs.known,hs.apart,hs.increasing,hs.bounded⟩

theorem Reaches.sound (hr : Reaches s h) : Sound s h := by
  induction hr with
  | start => exact .start
  | next _ ht ih => exact ht.sound ih

end Wiring
end StatementPad.Channel
