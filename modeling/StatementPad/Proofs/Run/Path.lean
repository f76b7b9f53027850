import StatementPad.Run.Task

/-! # Paths of tasks

A path of a task is the list of its steps, with what was answered. A call of the kernel takes two steps, so
that something else can happen while the task waits for the answer. `Meets` says of all paths at once that
each step is allowed after the steps before it, and what holds at the end.
-/
namespace StatementPad

inductive TaskStep where
  | act (action : SharedAction) (answer : action.Answer)
  | asked (call : KernelCall)
  | answered (call : KernelCall) (answer : call.Answer)

/-- A list that ends in `last` is split there or before. -/
theorem snoc_eq_append_cons {γ : Type} {list before after : List γ} {last a : γ}
    (h : list ++ [last] = before ++ a :: after) :
    (list = before ∧ last = a ∧ after = []) ∨ ∃ after', list = before ++ a :: after' ∧ after = after' ++ [last] := by
  rcases List.eq_nil_or_concat after with rfl | ⟨after,last',rfl⟩
  · obtain ⟨rfl,hl⟩ := List.append_inj' h rfl
    exact .inl ⟨rfl,(List.cons.inj hl).1,rfl⟩
  · rw [List.concat_eq_append, ← List.cons_append, ← List.append_assoc] at h
    obtain ⟨rfl,hl⟩ := List.append_inj' h rfl
    exact .inr ⟨after,rfl,by rw [List.concat_eq_append, hl]⟩

/-- An element of two lists in a row is in the first one or in the second one. -/
theorem append_eq_append_cons {γ : Type} {list more before after : List γ} {a : γ}
    (h : list ++ more = before ++ a :: after) :
    (∃ between, list = before ++ a :: between ∧ after = between ++ more) ∨
      ∃ between, before = list ++ between ∧ more = between ++ a :: after := by
  rcases List.append_eq_append_iff.mp h with ⟨between,hbefore,hmore⟩ | ⟨between,hlist,hafter⟩
  · exact .inr ⟨between,hbefore,hmore⟩
  · cases between with
    | nil => exact .inr ⟨[],by simpa using hlist.symm,hafter.symm⟩
    | cons b between =>
      obtain ⟨rfl,rfl⟩ := List.cons.inj hafter
      exact .inl ⟨between,hlist,rfl⟩

namespace Task
variable {α β γ : Type}

theorem bind_eq (t : Task α) (f : α → Task β) : t >>= f = t.bind f := rfl

theorem bind_bind (t : Task α) (f : α → Task β) (g : β → Task γ) :
    (t.bind f).bind g = t.bind fun value => (f value).bind g := by
  induction t with
  | done value => rfl
  | act action next ih => exact congrArg (Task.act action) (funext ih)
  | call c next ih => exact congrArg (Task.call c) (funext ih)

theorem bind_done (t : Task α) : t.bind .done = t := by
  induction t with
  | done value => rfl
  | act action next ih => exact congrArg (Task.act action) (funext ih)
  | call c next ih => exact congrArg (Task.call c) (funext ih)

/-- The steps that lead from `t` to what is left of it. The flag tells whether it waits for an answer. -/
inductive Path (t : Task α) : List TaskStep → Task α → Bool → Prop where
  | start : Path t [] t false
  | act {steps action next} (answer : action.Answer) (h : Path t steps (.act action next) false) :
      Path t (steps ++ [.act action answer]) (next answer) false
  | asked {steps call next} (h : Path t steps (.call call next) false) :
      Path t (steps ++ [.asked call]) (.call call next) true
  | answered {steps call next} (answer : call.Answer) (h : Path t steps (.call call next) true) :
      Path t (steps ++ [.answered call answer]) (next answer) false

variable (allowed : List TaskStep → TaskStep → Prop)

/-- After the steps `past`, each step of `t` is allowed, and `post` holds when it is done. -/
def Meets (post : α → List TaskStep → Prop) : List TaskStep → Task α → Prop
  | past, done value => post value past
  | past, act action next => ∀ answer, allowed past (.act action answer) ∧
      Meets post (past ++ [.act action answer]) (next answer)
  | past, call c next => allowed past (.asked c) ∧ ∀ answer,
      allowed (past ++ [.asked c]) (.answered c answer) ∧
      Meets post (past ++ [.asked c, .answered c answer]) (next answer)

def MeetsAt (post : α → List TaskStep → Prop) (past : List TaskStep) (t : Task α) : Bool → Prop
  | false => Meets allowed post past t
  | true => ∀ c next, t = .call c next → ∀ answer, allowed past (.answered c answer) ∧
      Meets allowed post (past ++ [.answered c answer]) (next answer)

variable {allowed} {post : α → List TaskStep → Prop} {past : List TaskStep}

@[simp] theorem meets_pure {value : α} : Meets allowed post past (pure value) ↔ post value past := Iff.rfl

@[simp] theorem meets_bind {t : Task β} {f : β → Task α} :
    Meets allowed post past (t >>= f) ↔
      Meets allowed (fun value past => Meets allowed post past (f value)) past t := by
  change Meets allowed post past (bind t f) ↔ _
  induction t generalizing past with
  | done value => exact Iff.rfl
  | act action next ih => simp only [bind, Meets, ih]
  | call c next ih => simp only [bind, Meets, ih]

section Actions
variable {post : Unit → List TaskStep → Prop}

@[simp] theorem meets_send {event : RunEvent} :
    Meets allowed post past (send event) ↔
      allowed past (.act (.send event) ()) ∧ post () (past ++ [.act (.send event) ()]) :=
  ⟨fun h => h (),fun h _ => h⟩

@[simp] theorem meets_enter {buffer : BufferId} :
    Meets allowed post past (perform (.enter buffer)) ↔
      allowed past (.act (.enter buffer) ()) ∧ post () (past ++ [.act (.enter buffer) ()]) :=
  ⟨fun h => h (),fun h _ => h⟩

abbrev stateSteps (s : RunState) : List TaskStep := [.act (.advance s) (), .act (.send (.state s)) ()]

@[simp] theorem meets_setState {s : RunState} :
    Meets allowed post past (setState s) ↔ allowed past (.act (.advance s) ()) ∧
      allowed (past ++ [.act (.advance s) ()]) (.act (.send (.state s)) ()) ∧ post () (past ++ stateSteps s) := by
  have he : past ++ stateSteps s = past ++ [.act (.advance s) ()] ++ [.act (.send (.state s)) ()] := by simp
  rw [he]
  exact ⟨fun h => ⟨(h ()).1,(h ()).2 ()⟩,fun h _ => ⟨h.1,fun _ => h.2⟩⟩

end Actions

@[simp] theorem meets_lastEntered {post : Option BufferId → List TaskStep → Prop} :
    Meets allowed post past (perform .lastEntered) ↔
      ∀ entered, allowed past (.act .lastEntered entered) ∧ post entered (past ++ [.act .lastEntered entered]) :=
  Iff.rfl

@[simp] theorem meets_setWorkingDir {path : Text} {post : Except Fault Unit → List TaskStep → Prop} :
    Meets allowed post past (ask (.setWorkingDir path)) ↔
      allowed past (.asked (.setWorkingDir path)) ∧ ∀ moved : Except Fault Unit,
        allowed (past ++ [.asked (.setWorkingDir path)]) (.answered (.setWorkingDir path) moved) ∧
        post moved (past ++ [.asked (.setWorkingDir path), .answered (.setWorkingDir path) moved]) :=
  Iff.rfl

theorem Meets.mono {allowed' : List TaskStep → TaskStep → Prop} {post' : α → List TaskStep → Prop} {t : Task α}
    (h : Meets allowed post past t) (ha : ∀ past step, allowed past step → allowed' past step)
    (hp : ∀ value past, post value past → post' value past) : Meets allowed' post' past t := by
  induction t generalizing past with
  | done value => exact hp value past h
  | act action next ih => exact fun answer => ⟨ha _ _ (h answer).1,ih answer (h answer).2⟩
  | call c next ih => exact ⟨ha _ _ h.1,fun answer => ⟨ha _ _ (h.2 answer).1,ih answer (h.2 answer).2⟩⟩

/-- What a task meets, it still meets after some of its steps. -/
theorem Path.meetsAt {t u : Task α} {steps : List TaskStep} {waiting : Bool} (hp : Path t steps u waiting)
    (h : Meets allowed post [] t) : MeetsAt allowed post steps u waiting := by
  induction hp with
  | start => exact h
  | act answer _ ih => exact (ih answer).2
  | asked _ ih =>
    intro c next he answer
    cases he
    simpa using ih.2 answer
  | answered answer _ ih => exact (ih _ _ rfl answer).2

theorem Path.call_of_waiting {t u : Task α} {steps : List TaskStep} (hp : Path t steps u true) :
    ∃ c next earlier, u = .call c next ∧ steps = earlier ++ [.asked c] := by
  cases hp with
  | asked hp => exact ⟨_,_,_,rfl,rfl⟩

theorem Path.allowed_step {t u : Task α} {steps : List TaskStep} {waiting : Bool} (hp : Path t steps u waiting)
    (h : Meets allowed post [] t) {before after : List TaskStep} {step : TaskStep}
    (he : steps = before ++ step :: after) : allowed before step := by
  induction hp generalizing after with
  | start => simp at he
  | act answer hp ih =>
    obtain ⟨rfl,rfl,-⟩ | ⟨after,he,-⟩ := snoc_eq_append_cons he
    · exact (hp.meetsAt h answer).1
    · exact ih he
  | asked hp ih =>
    obtain ⟨rfl,rfl,-⟩ | ⟨after,he,-⟩ := snoc_eq_append_cons he
    · exact (hp.meetsAt h).1
    · exact ih he
  | answered answer hp ih =>
    obtain ⟨rfl,rfl,-⟩ | ⟨after,he,-⟩ := snoc_eq_append_cons he
    · exact (hp.meetsAt h _ _ rfl answer).1
    · exact ih he

theorem Path.of_eq {t u : Task α} (h : u = t) : Path t [] u false := h ▸ .start

/-- A path through one task and then another is a path of the first one, or one that has come to its end and
then a path of what follows. -/
theorem Path.of_bind {t : Task α} {f : α → Task β} {steps : List TaskStep} {u : Task β} {waiting : Bool}
    (hp : Path (bind t f) steps u waiting) : (∃ t', Path t steps t' waiting ∧ u = bind t' f) ∨
      ∃ value front back, steps = front ++ back ∧ Path t front (.done value) false ∧
        Path (f value) back u waiting := by
  induction hp with
  | start => exact .inl ⟨t,.start,rfl⟩
  | act answer _ ih =>
    rcases ih with ⟨t',ht,he⟩ | ⟨value,front,back,rfl,ht,hf⟩
    · cases t' with
      | done value =>
        exact .inr ⟨value,_,[.act _ answer],rfl,ht,(Path.of_eq (t := f value) he).act answer⟩
      | act action next =>
        cases he
        exact .inl ⟨next answer,ht.act answer,rfl⟩
      | call c next => cases he
    · exact .inr ⟨value,front,_,List.append_assoc ..,ht,hf.act answer⟩
  | asked _ ih =>
    rcases ih with ⟨t',ht,he⟩ | ⟨value,front,back,rfl,ht,hf⟩
    · cases t' with
      | done value =>
        exact .inr ⟨value,_,[.asked _],rfl,ht,(Path.of_eq (t := f value) he).asked⟩
      | act action next => cases he
      | call c next =>
        cases he
        exact .inl ⟨_,ht.asked,rfl⟩
    · exact .inr ⟨value,front,_,List.append_assoc ..,ht,hf.asked⟩
  | answered answer _ ih =>
    rcases ih with ⟨t',ht,he⟩ | ⟨value,front,back,rfl,ht,hf⟩
    · obtain ⟨c,next,-,rfl,-⟩ := ht.call_of_waiting
      cases he
      exact .inl ⟨next answer,ht.answered answer,rfl⟩
    · exact .inr ⟨value,front,_,List.append_assoc ..,ht,hf.answered answer⟩

theorem Path.done_bind {t : Task α} {f : α → Task β} {steps : List TaskStep} {last : β}
    (hp : Path (bind t f) steps (.done last) false) : ∃ value front back, steps = front ++ back ∧
      Path t front (.done value) false ∧ Path (f value) back (.done last) false := by
  rcases hp.of_bind with ⟨t',ht,he⟩ | h
  · cases t' with
    | done value => exact ⟨value,steps,[],(List.append_nil _).symm,ht,Path.of_eq he⟩
    | act action next | call c next => cases he
  · exact h

instance (action : SharedAction) : Inhabited action.Answer := by
  cases action <;> exact ⟨default⟩

instance (c : KernelCall) : Nonempty c.Answer := by
  cases c <;> exact ⟨.error .notAlive⟩

/-- A task that is under way comes to its end if its calls are answered. -/
theorem Path.completes {t u : Task α} {steps : List TaskStep} {waiting : Bool} (hp : Path t steps u waiting) :
    ∃ more value, Path t (steps ++ more) (.done value) false := by
  induction u generalizing steps waiting with
  | done value =>
    cases waiting with
    | false => exact ⟨[],value,by simpa using hp⟩
    | true => exact absurd hp.call_of_waiting (by simp)
  | act action next ih =>
    cases waiting with
    | false =>
      obtain ⟨more,value,hm⟩ := ih default (hp.act default)
      exact ⟨_,value,List.append_assoc .. ▸ hm⟩
    | true => exact absurd hp.call_of_waiting (by simp)
  | call c next ih =>
    obtain ⟨answer⟩ : Nonempty c.Answer := inferInstance
    cases waiting with
    | false =>
      obtain ⟨more,value,hm⟩ := ih answer (hp.asked.answered answer)
      exact ⟨.asked c :: .answered c answer :: more,value,by simpa using hm⟩
    | true =>
      obtain ⟨more,value,hm⟩ := ih answer (hp.answered answer)
      exact ⟨_,value,List.append_assoc .. ▸ hm⟩

end Task
end StatementPad
