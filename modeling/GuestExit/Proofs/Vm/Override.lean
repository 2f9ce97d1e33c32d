import GuestExit.Proofs.Chain.Override
import GuestExit.Proofs.Vm.Comparison

/-!
# Late policy overrides early policy

Two virtual CPUs are compared that are equal but for the handlers of one category (`Vm.SameBut`), in
two ways. In the first, what differs stands below a handler that claims every exit. In the second,
one has a bystander more than the other, anywhere in the chain. The difference never shows, and
stays where it is.

There is one thing about a handler that depends on others: its number. Handlers are numbered from
the bottom of the chain, so those that stand above the difference have other numbers in the two
virtual CPUs, and calls are the same up to that (`Called.renumber`). And the bystander is called
itself; whatever it tells the log then is told in between, and all the rest is told in the same
order (`Inserted`).
-/

namespace GuestExit

variable {σ : Type}

namespace Called

/-- The number of the handler that was called. -/
def number : Called σ → Nat
  | .access _ call => call.handler
  | .interrupt call => call.handler

/-- The same call, with another number for the handler if it is one of the category. -/
def renumber (c : Category) (f : Nat → Nat) : Called σ → Called σ
  | .access t call =>
    .access t { call with handler := if c = .access t then f call.handler else call.handler }
  | .interrupt call =>
    .interrupt { call with handler := if c = .interrupt then f call.handler else call.handler }

theorem renumber_of (c : Category) (f : Nat → Nat) (call : Call σ c.Info) :
    (of c call).renumber c f = of c { call with handler := f call.handler } := by
  cases c <;> simp [of, renumber] <;> rfl

theorem renumber_of_ne {c : Category} {x : Called σ} (h : x.category ≠ c) (f : Nat → Nat) :
    x.renumber c f = x := by
  cases x with
  | access t call => simp [renumber, show c ≠ .access t from h.symm]
  | interrupt call => simp [renumber, show c ≠ .interrupt from h.symm]

theorem map_renumber_of_ne {c : Category} {calls : List (Called σ)} (h : ∀ x ∈ calls, x.category ≠ c)
    (f : Nat → Nat) : calls.map (renumber c f) = calls := by
  rw [List.map_congr_left fun x hx => renumber_of_ne (h x hx) f, List.map_id']

theorem map_raise (c : Category) (n : Nat) (calls : List (Call σ c.Info)) :
    (calls.map (.raise n)).map (of c) = (calls.map (of c)).map (renumber c (· + n)) := by
  rw [List.map_map, List.map_map]
  refine List.map_congr_left fun call _ => ?_
  rw [Function.comp_apply, Function.comp_apply, renumber_of]
  rfl

theorem effects_of (c : Category) (call : Call σ c.Info) :
    (of c call).effects = call.outcome.effects := by
  cases c <;> rfl

theorem category_of (c : Category) (call : Call σ c.Info) : (of c call).category = c := by
  cases c <;> rfl

theorem number_of (c : Category) (call : Call σ c.Info) : (of c call).number = call.handler := by
  cases c <;> rfl

theorem effects_dispatch (c : Category) (chain : Chain σ c.Info) (info : c.Info) (m : Machine) :
    (chain.dispatch info m).effects
      = ((chain.dispatch info m).value.calls.map (of c)).flatMap effects := by
  rw [Chain.effects_dispatch, List.flatMap_map]
  exact List.flatMap_congr fun call _ => (effects_of c call).symm

end Called

/-- Two virtual CPUs that are equal but for the handlers of a category. -/
structure Vm.SameBut (c : Category) (vm vm' : Vm σ) : Prop where
  machine : vm.machine = vm'.machine
  /-- The handlers of the other categories, with their private states. -/
  chains : ∀ c', c' ≠ c → vm.chain c' = vm'.chain c'
  log : vm.controlRegister.log = vm'.controlRegister.log
  recording : vm.controlRegister.logging = vm'.controlRegister.logging
  counts : vm.interrupt.counts = vm'.interrupt.counts
  counting : vm.interrupt.logging = vm'.interrupt.logging
  routes : vm.routes = vm'.routes

/-- Chains that are equal, or those of the category, which are related. -/
inductive Within (c : Category) (R : Chain σ c.Info → Chain σ c.Info → Prop) :
    (c' : Category) → Chain σ c'.Info → Chain σ c'.Info → Prop where
  | other {c' : Category} {chain : Chain σ c'.Info} : c' ≠ c → Within c R c' chain chain
  | same {chain chain' : Chain σ c.Info} : R chain chain' → Within c R c chain chain'

theorem Within.related {c : Category} {R : Chain σ c.Info → Chain σ c.Info → Prop}
    {chain chain' : Chain σ c.Info} (h : Within c R c chain chain') : R chain chain' := by
  cases h with
  | other hne => exact absurd rfl hne
  | same hR => exact hR

theorem Within.eq {c c' : Category} {R : Chain σ c.Info → Chain σ c.Info → Prop}
    {chain chain' : Chain σ c'.Info} (hne : c' ≠ c) (h : Within c R c' chain chain') :
    chain = chain' := by
  cases h with
  | other _ => rfl
  | same _ => exact absurd rfl hne

/-- A way in which the handlers of one category may differ, all else being equal. -/
structure Variation (σ : Type) (c : Category) where
  /-- The two chains of the category. -/
  Chains : Chain σ c.Info → Chain σ c.Info → Prop
  /-- What was called and done by the one is like what was called and done by the other. -/
  Deeds : List (Called σ) → List Effect → List (Called σ) → List Effect → Prop
  told : ∀ effects, Deeds [] effects [] effects
  append : ∀ {a b a' b' ea eb ea' eb'}, Deeds a ea a' ea' → Deeds b eb b' eb' →
    Deeds (a ++ b) (ea ++ eb) (a' ++ b') (ea' ++ eb')
  /-- What handlers of other categories do is the same. -/
  others : ∀ {calls : List (Called σ)}, (∀ x ∈ calls, x.category ≠ c) →
    Deeds calls (calls.flatMap Called.effects) calls (calls.flatMap Called.effects)
  /-- A handler may be put in front of both chains. -/
  register : ∀ {chain chain'} h, Chains chain chain' → Chains (chain.register h) (chain'.register h)
  /-- An exit comes to the same, whichever of the two chains it goes down. -/
  dispatch : ∀ {chain chain'} info m, Chains chain chain' →
    let d := chain.dispatch info m
    let d' := chain'.dispatch info m
    d.value.claimed = d'.value.claimed ∧ d.value.info = d'.value.info
      ∧ Chains d.value.chain d'.value.chain ∧ m.perform d.effects = m.perform d'.effects
      ∧ Deeds (d.value.calls.map (.of c)) d.effects (d'.value.calls.map (.of c)) d'.effects

namespace Variation

variable {c : Category} (V : Variation σ c)

/-- Two virtual CPUs that are equal but for the handlers of the category, and these vary. -/
def comparison : Comparison σ where
  Machines m m' := m = m'
  Chains := Within c V.Chains
  Deeds := V.Deeds
  machine h := h ▸ ⟨rfl, fun _ _ => rfl⟩
  perform h effects := h ▸ rfl
  told := V.told
  append := V.append
  dispatch {c' chain chain' m m'} info hchains hmachine := by
    subst hmachine
    cases hchains with
    | other hne =>
      refine ⟨rfl, rfl, .other hne, rfl, ?_⟩
      rw [Called.effects_dispatch]
      refine V.others fun x hx => ?_
      obtain ⟨call, -, rfl⟩ := List.mem_map.mp hx
      rwa [Called.category_of]
    | same hsame =>
      obtain ⟨hclaimed, hinfo, hchain, hmachine, hdeeds⟩ := V.dispatch info m hsame
      exact ⟨hclaimed, hinfo, .same hchain, hmachine, hdeeds⟩

variable {V}

theorem vms_iff {vm vm' : Vm σ} :
    V.comparison.Vms vm vm' ↔ vm.SameBut c vm' ∧ V.Chains (vm.chain c) (vm'.chain c) := by
  constructor
  · intro h
    exact ⟨⟨h.machine, fun c' hne => (h.chains c').eq hne, h.log, h.recording, h.counts, h.counting,
      h.routes⟩, (h.chains c).related⟩
  · rintro ⟨h, hsame⟩
    refine ⟨h.machine, fun c' => ?_, h.log, h.recording, h.counts, h.counting, h.routes⟩
    by_cases hne : c' = c
    · subst hne
      exact .same hsame
    · rw [h.chains c' hne]
      exact .other hne

/-- A whole run comes to the same, as long as the virtualizer with the chain that varies keeps its
place. -/
theorem run_alike [Inhabited σ] {vm vm' : Vm σ} {steps : List (Step σ)} (same : vm.SameBut c vm')
    (chains : V.Chains (vm.chain c) (vm'.chain c)) (kept : .replace c.route ∉ steps) :
    List.Forall₂ V.comparison.Transitions (vm.run steps) (vm'.run steps)
      ∧ (vm.after steps).SameBut c (vm'.after steps) := by
  have hadmits : ∀ s ∈ steps, V.comparison.Admits s := by
    refine fun s hs => ⟨fun c' handler _ chain chain' h => ?_, fun c' hreplaces => ?_⟩
    · cases h with
      | other hne => exact .other hne
      | same hsame => exact .same (V.register handler hsame)
    · obtain rfl := Step.eq_replace_of_replaces hreplaces
      exact .other fun e => kept (e ▸ hs)
  obtain ⟨hrun, hafter⟩ := Comparison.run_alike (vms_iff.mpr ⟨same, chains⟩) hadmits
  exact ⟨hrun, (vms_iff.mp hafter).1⟩

end Variation

/-! ## Below a conclusive layer -/

/-- What stands below a conclusive layer may be anything. It is not called; the handlers called
stand above it, and count what is below. -/
def overriding (c : Category) (older older' : Chain σ c.Info) : Variation σ c where
  Chains chain chain' := ∃ newer : Chain σ c.Info,
    newer.Conclusive ∧ chain = newer ++ older ∧ chain' = newer ++ older'
  Deeds calls effects calls' effects' := effects = effects' ∧ ∃ above : List (Called σ),
    calls = above.map (Called.renumber c (· + older.length))
      ∧ calls' = above.map (Called.renumber c (· + older'.length))
  told _ := ⟨rfl, [], rfl, rfl⟩
  append := by
    rintro _ _ _ _ _ _ _ _ ⟨rfl, above, rfl, rfl⟩ ⟨rfl, above', rfl, rfl⟩
    exact ⟨rfl, above ++ above', List.map_append.symm, List.map_append.symm⟩
  others {calls} h :=
    ⟨rfl, calls, (Called.map_renumber_of_ne h _).symm, (Called.map_renumber_of_ne h _).symm⟩
  register h := by
    rintro ⟨newer, hnewer, rfl, rfl⟩
    exact ⟨newer.register h, hnewer.register h, rfl, rfl⟩
  dispatch info m := by
    rintro ⟨newer, hnewer, rfl, rfl⟩
    rw [Chain.dispatch_conclusive hnewer, Chain.dispatch_conclusive hnewer]
    refine ⟨rfl, rfl, ⟨_, hnewer.dispatch info m, rfl, rfl⟩, rfl, rfl, ?_⟩
    exact ⟨_, Called.map_raise c _ _, Called.map_raise c _ _⟩

/-! ## Around a bystander -/

/-- The same handlers are called with the same result, some with another number (`lift`), and a
handler of one's own is called in between. -/
inductive Inserted (own : Called σ → Prop) (lift : Called σ → Called σ) :
    List (Called σ) → List Effect → List (Called σ) → List Effect → Prop where
  | nothing : Inserted own lift [] [] [] []
  /-- The same is done, -/
  | effect (e : Effect) {calls effects calls' effects'} :
      Inserted own lift calls effects calls' effects' →
      Inserted own lift calls (e :: effects) calls' (e :: effects')
  /-- the same is called, -/
  | call (x : Called σ) {calls effects calls' effects'} :
      Inserted own lift calls effects calls' effects' →
      Inserted own lift (x :: calls) (x.effects ++ effects) (lift x :: calls') (x.effects ++ effects')
  /-- and the handler of one's own is called and does something. -/
  | own (x : Called σ) {calls effects calls' effects'} : own x →
      Inserted own lift calls effects calls' effects' →
      Inserted own lift calls effects (x :: calls') (x.effects ++ effects')

namespace Inserted

variable {own : Called σ → Prop} {lift : Called σ → Called σ} {calls calls' : List (Called σ)}
  {effects effects' : List Effect}

theorem told (effects : List Effect) : Inserted own lift [] effects [] effects := by
  induction effects with
  | nil => exact .nothing
  | cons e _ ih => exact .effect e ih

theorem map (calls : List (Called σ)) : Inserted own lift calls (calls.flatMap Called.effects)
    (calls.map lift) (calls.flatMap Called.effects) := by
  induction calls with
  | nil => exact .nothing
  | cons x _ ih => exact .call x ih

theorem append {calls₂ calls₂' : List (Called σ)} {effects₂ effects₂' : List Effect}
    (h : Inserted own lift calls effects calls' effects')
    (h₂ : Inserted own lift calls₂ effects₂ calls₂' effects₂') :
    Inserted own lift (calls ++ calls₂) (effects ++ effects₂) (calls' ++ calls₂')
      (effects' ++ effects₂') := by
  induction h with
  | nothing => exact h₂
  | effect e _ ih => exact .effect e ih
  | call x _ ih =>
    rw [List.append_assoc, List.append_assoc]
    exact .call x ih
  | own x hx _ ih =>
    rw [List.append_assoc]
    exact .own x hx ih

end Inserted

/-- The number that a handler has once another one was put above the lowest `n`. -/
def makingRoom (n i : Nat) : Nat := if i < n then i else i + 1

/-- A call of the handler `b` of the category, which stands above `n` others: it has that number,
and what came of the call is how it reacts. -/
structure Called.IsOf (c : Category) (n : Nat) (b : Handler σ c.Info) (x : Called σ) : Prop where
  number : x.number = n
  reacts : ∃ call : Call σ c.Info,
    x = .of c call ∧ call.outcome = b.react call.state call.info call.machine

/-- The handler of one's own is `b`, which stands above `n` others of the category. -/
def InsertedAt (c : Category) (n : Nat) (b : Handler σ c.Info) :
    List (Called σ) → List Effect → List (Called σ) → List Effect → Prop :=
  Inserted (Called.IsOf c n b) (Called.renumber c (makingRoom n))

namespace InsertedAt

variable {c : Category} {b : Handler σ c.Info}

theorem others {n : Nat} {calls : List (Called σ)} (h : ∀ x ∈ calls, x.category ≠ c) :
    InsertedAt c n b calls (calls.flatMap Called.effects) calls (calls.flatMap Called.effects) := by
  have hmap : InsertedAt c n b calls (calls.flatMap Called.effects)
      (calls.map (Called.renumber c (makingRoom n))) (calls.flatMap Called.effects) := .map calls
  rwa [Called.map_renumber_of_ne h] at hmap

/-- The handlers above make room. -/
theorem upper (n : Nat) (chain : Chain σ c.Info) (info : c.Info) (m : Machine) :
    let d := chain.dispatch info m
    InsertedAt c n b ((d.value.calls.map (.raise n)).map (.of c)) d.effects
      ((d.value.calls.map (.raise (n + 1))).map (.of c)) d.effects := by
  intro d
  have hmap : InsertedAt c n b _ _ _ _ := .map ((d.value.calls.map (.raise n)).map (Called.of c))
  have heffects : ((d.value.calls.map (.raise n)).map (Called.of c)).flatMap Called.effects
      = d.effects := by
    rw [Called.effects_dispatch, List.flatMap_map, List.flatMap_map, List.flatMap_map]
    refine List.flatMap_congr fun call _ => ?_
    rw [Called.effects_of, Called.effects_of]
    rfl
  have hcalls : ((d.value.calls.map (.raise n)).map (Called.of c)).map
        (Called.renumber c (makingRoom n)) = (d.value.calls.map (.raise (n + 1))).map (.of c) := by
    simp only [List.map_map]
    refine List.map_congr_left fun call _ => ?_
    have hge : ¬call.handler + n < n := by omega
    simp only [Function.comp_apply, Called.renumber_of, Call.raise, makingRoom, if_neg hge,
      Nat.add_assoc]
  rwa [heffects, hcalls] at hmap

theorem lower (chain : Chain σ c.Info) (info : c.Info) (m : Machine) :
    let d := chain.dispatch info m
    InsertedAt c chain.length b (d.value.calls.map (.of c)) d.effects (d.value.calls.map (.of c))
      d.effects := by
  intro d
  have hmap : InsertedAt c chain.length b _ _ _ _ := .map (d.value.calls.map (Called.of c))
  have hcalls : (d.value.calls.map (Called.of c)).map (Called.renumber c (makingRoom chain.length))
      = d.value.calls.map (.of c) := by
    rw [List.map_map]
    refine List.map_congr_left fun call hcall => ?_
    have hlt : call.handler < chain.length := (chain.traversal info m).handler_lt hcall
    rw [Function.comp_apply, Called.renumber_of, makingRoom, if_pos hlt]
  rwa [← Called.effects_dispatch, hcalls] at hmap

/-- The call of the bystander comes before those of the handlers below. -/
theorem bystander {n : Nat} {calls calls' : List (Called σ)} {effects effects' : List Effect}
    {call : Call σ c.Info} (number : call.handler = n)
    (reacts : call.outcome = b.react call.state call.info call.machine)
    (h : InsertedAt c n b calls effects calls' effects') :
    InsertedAt c n b calls effects (.of c call :: calls') (call.outcome.effects ++ effects') := by
  rw [← Called.effects_of]
  exact .own _ ⟨(Called.number_of c call).trans number, call, rfl, reacts⟩ h

end InsertedAt

/-- One of the two chains has a bystander more, above `n` handlers. -/
def inserting (c : Category) (n : Nat) {b : Handler σ c.Info} (hb : b.Bystander) : Variation σ c where
  Chains chain chain' := ∃ (upper lower : Chain σ c.Info) (s : σ), lower.length = n
    ∧ chain = upper ++ lower ∧ chain' = upper ++ { b with state := s } :: lower
  Deeds := InsertedAt c n b
  told := .told
  append := .append
  others := InsertedAt.others
  register h := by
    rintro ⟨upper, lower, s, hlength, rfl, rfl⟩
    exact ⟨upper.register h, lower, s, hlength, rfl, rfl⟩
  dispatch info m := by
    rintro ⟨upper, lower, s, rfl, rfl, rfl⟩
    have hupper := InsertedAt.upper (b := b) lower.length upper info m
    rw [Chain.dispatch_append, Chain.dispatch_around_bystander (hb.withState s)]
    dsimp only at hupper ⊢
    generalize upper.dispatch info m = d at hupper ⊢
    split
    · exact ⟨rfl, rfl, ⟨_, lower, s, rfl, rfl, rfl⟩, rfl, hupper⟩
    · have hlower := InsertedAt.lower (b := b) lower d.value.info (m.perform d.effects)
      dsimp only at hlower ⊢
      have hleft : (m.perform d.effects).perform
          (b.react s d.value.info (m.perform d.effects)).effects = m.perform d.effects :=
        hb.leaves ..
      refine ⟨rfl, rfl, ⟨_, _, _, Chain.length_dispatch .., rfl, rfl⟩, ?_, ?_⟩
      · rw [Machine.perform_append, Machine.perform_append, Machine.perform_append, hleft]
      · rw [List.map_append, List.map_append, List.map_cons]
        exact hupper.append (InsertedAt.bystander rfl rfl hlower)

/-! ## What does not show -/

/-- Two transitions that differ in nothing but older handlers, which are not called. -/
structure Transition.SameButOlder (c : Category) (older older' : Chain σ c.Info)
    (t t' : Transition σ Answer) : Prop where
  value : t.value = t'.value
  /-- The same is done in the same order: fields written, registers saved, lines told. -/
  effects : t.effects = t'.effects
  /-- The same handlers are called, in the same states with the same results. They stand above the
  older ones and count them. -/
  calls : ∃ above : List (Called σ), t.calls = above.map (Called.renumber c (· + older.length))
    ∧ t'.calls = above.map (Called.renumber c (· + older'.length))
  vm : t.vm.SameBut c t'.vm
  /-- The older handlers, with their private states, are what they were. -/
  chains : ∃ newer : Chain σ c.Info, newer.Conclusive ∧ t.vm.chain c = newer ++ older
    ∧ t'.vm.chain c = newer ++ older'

/-- Two transitions that differ in nothing but a handler more, above `n` others, in the second. -/
structure Transition.SameBeside (c : Category) (n : Nat) (b : Handler σ c.Info)
    (t t' : Transition σ Answer) : Prop where
  value : t.value = t'.value
  /-- The same is called and done in the same order, but for calls of this handler in between. -/
  deeds : InsertedAt c n b t.calls t.effects t'.calls t'.effects
  vm : t.vm.SameBut c t'.vm
  /-- It stands where it stood, and no other handler has another state. -/
  chains : ∃ (upper lower : Chain σ c.Info) (s : σ), lower.length = n ∧ t.vm.chain c = upper ++ lower
    ∧ t'.vm.chain c = upper ++ { b with state := s } :: lower

namespace Vm

variable [Inhabited σ] {c : Category} {vm vm' : Vm σ}

/-- Two virtual CPUs that leave the same behind: they tell the same when they are given up, and are
the same from the moment that the virtualizer of a category makes room for a new one. -/
structure LeavesSame (c : Category) (vm vm' : Vm σ) : Prop where
  retired : vm.retire = vm'.retire
  replaced : ∀ rest, vm.run (.replace c.route :: rest) = vm'.run (.replace c.route :: rest)

theorem SameBut.replace (h : vm.SameBut c vm') :
    VmM.step (.replace c.route) vm = VmM.step (.replace c.route) vm' := by
  have haccesses := ControlRegister.Virtualizer.retire_congr h.log h.recording
  have hinterrupts := Interrupt.Virtualizer.retire_congr h.counts h.counting
  cases c with
  | access t =>
    have hvm : ({ vm with controlRegister := {} } : Vm σ) = { vm' with controlRegister := {} } := by
      refine ext_of_chain h.machine (fun c => ?_) rfl rfl h.counts h.counting h.routes
      cases c with
      | access u => rfl
      | interrupt => exact h.chains .interrupt (by simp)
    simp [Category.route, VmM.step, VmM.replace, VmM.bind_apply, haccesses, hvm]
  | interrupt =>
    have hvm : ({ vm with interrupt := {} } : Vm σ) = { vm' with interrupt := {} } := by
      refine ext_of_chain h.machine (fun c => ?_) h.log h.recording rfl rfl h.routes
      cases c with
      | access u => exact h.chains (.access u) (by simp)
      | interrupt => rfl
    simp [Category.route, VmM.step, VmM.replace, VmM.bind_apply, hinterrupts, hvm]

theorem SameBut.leavesSame (h : vm.SameBut c vm') : vm.LeavesSame c vm' where
  retired := by
    unfold retire
    rw [ControlRegister.Virtualizer.retire_congr h.log h.recording,
      Interrupt.Virtualizer.retire_congr h.counts h.counting]
  replaced rest := by rw [run_cons, run_cons, h.replace]

/--
**Late policy overrides early policy.** Take two virtual CPUs that are equal but for the handlers of
one category, and put them through the same steps, whatever these are.

If the difference stands below a handler that claims every exit, it never shows: the answers, the
calls, all that is done and all that the two are is the same after every step, and the handlers
below are what they were.

If one of the two has a bystander more, anywhere in the chain, its calls are all that it adds.

When at last the virtualizer makes room for a new one, nothing is left of either difference.
-/
theorem late_policy_overrides_early {steps : List (Step σ)} (same : vm.SameBut c vm')
    (kept : .replace c.route ∉ steps) :
    (∀ newer older older' : Chain σ c.Info, newer.Conclusive → vm.chain c = newer ++ older →
        vm'.chain c = newer ++ older' →
      List.Forall₂ (Transition.SameButOlder c older older') (vm.run steps) (vm'.run steps)
        ∧ (vm.after steps).LeavesSame c (vm'.after steps))
      ∧ ∀ (upper lower : Chain σ c.Info) (b : Handler σ c.Info), b.Bystander →
        vm.chain c = upper ++ lower → vm'.chain c = upper ++ b :: lower →
        List.Forall₂ (Transition.SameBeside c lower.length b) (vm.run steps) (vm'.run steps)
          ∧ (vm.after steps).LeavesSame c (vm'.after steps) := by
  constructor
  · intro newer older older' hnewer hchain hchain'
    obtain ⟨hrun, hafter⟩ := Variation.run_alike (V := overriding c older older') same
      ⟨newer, hnewer, hchain, hchain'⟩ kept
    refine ⟨hrun.imp fun t t' h => ?_, hafter.leavesSame⟩
    obtain ⟨hvm, hchains⟩ := Variation.vms_iff.mp h.vm
    exact ⟨h.value, h.deeds.1, h.deeds.2, hvm, hchains⟩
  · intro upper lower b hb hchain hchain'
    obtain ⟨hrun, hafter⟩ := Variation.run_alike (V := inserting c lower.length hb) same
      ⟨upper, lower, b.state, rfl, hchain, hchain'⟩ kept
    refine ⟨hrun.imp fun t t' h => ?_, hafter.leavesSame⟩
    obtain ⟨hvm, hchains⟩ := Variation.vms_iff.mp h.vm
    exact ⟨h.value, h.deeds, hvm, hchains⟩

/-- A handler of writes of CR0 that claims every exit, above one that would have granted the write
and one that would have refused it. A handler that idles is put on top, and asked first. -/
theorem late_policy_overrides_early_in_cr0 :
    let m : Machine := { vmcs := Vmcs.ofList [(.exitReason, 28), (.exitInstructionLength, 3)],
                         saved := Registers.ofList [(.gpr 0, 0x31)] }
    let grants := Script.accessHandler "grants" [] (.always true)
    let refuses := Script.accessHandler "refuses" [.ignoreWrite true] (.always true)
    let overrides := Script.accessHandler "overrides" [.mask 0x30] (.always true)
    let idles := Script.accessHandler "idles" [] (.always false)
    let after handlers : Vm Script.Tally :=
      (create m).1.after (handlers.map (.addAccessHandler .writeCr0))
    let steps : List (Step Script.Tally) := [.setLogging .controlRegister true, .resolve, .exit]
    let vm := after [grants, overrides]
    let vm' := after [refuses, overrides]
    let watched := after [grants, overrides, idles]
    ((vm.SameBut (.access .writeCr0) vm' ∧ vm.SameBut (.access .writeCr0) watched)
        ∧ .replace .controlRegister ∉ steps ∧ Chain.Conclusive [overrides] ∧ idles.Bystander)
      ∧ List.Forall₂ (Transition.SameButOlder (.access .writeCr0) [grants] [refuses])
        (vm.run steps) (vm'.run steps)
      ∧ List.Forall₂ (Transition.SameBeside (.access .writeCr0) 2 idles)
        (vm.run steps) (watched.run steps)
      ∧ (vm.after steps).machine.vmcs.read .guestCr0 = 0x30
      ∧ (watched.run steps).map (fun t => t.calls.map (·.number)) = [[], [2, 1], [2, 1]] := by
  intro m grants refuses overrides idles after steps vm vm' watched
  have same : ∀ other ∈ [vm', watched], vm.SameBut (.access .writeCr0) other := by
    intro other hmem
    rw [List.mem_cons, List.mem_singleton] at hmem
    rcases hmem with rfl | rfl
    all_goals
      refine ⟨rfl, fun c' hne => ?_, rfl, rfl, rfl, rfl, rfl⟩
      cases c' with
      | interrupt => rfl
      | access t =>
        cases t with
        | writeCr0 => exact absurd rfl hne
        | readCr3 | writeCr3 | writeCr4 => rfl
  have hother : vm.SameBut (.access .writeCr0) vm' := same vm' (by simp)
  have hwatched : vm.SameBut (.access .writeCr0) watched := same watched (by simp)
  have kept : .replace .controlRegister ∉ steps := by simp [steps]
  have conclusive : Chain.Conclusive [overrides] :=
    ⟨overrides, List.mem_singleton_self _, fun _ _ _ => rfl⟩
  have bystander : idles.Bystander := ⟨fun _ _ _ => rfl, fun _ _ _ => rfl, fun _ _ _ => rfl⟩
  obtain ⟨hbelow, -⟩ := late_policy_overrides_early hother kept
  obtain ⟨-, hbeside⟩ := late_policy_overrides_early hwatched kept
  obtain ⟨holder, -⟩ := hbelow [overrides] [grants] [refuses] conclusive rfl rfl
  obtain ⟨hinserted, -⟩ := hbeside [] [overrides, grants] idles bystander rfl rfl
  exact ⟨⟨⟨hother, hwatched⟩, kept, conclusive, bystander⟩, holder, hinserted, by decide, by decide⟩

end Vm

end GuestExit
