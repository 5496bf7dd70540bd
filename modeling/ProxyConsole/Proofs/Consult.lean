import ProxyConsole.Browse

/-!
# Computations over a source

A computation that follows a plan makes the calls of the plan in order, stops at the first that
fails, and ends with the fault of that call. Plans of parts add up to the plan of the whole.
-/

namespace ProxyConsole

/-! ## One after the other -/

namespace Consult

variable {α β : Type} {c : Consult α} {next : α → Consult β} {s : Source}

theorem bind_of_error {e : Fault} (h : (c s).result = .error e) :
    (c >>= next) s = ⟨(c s).calls, .error e⟩ := by
  show Consult.bind c next s = _
  unfold Consult.bind
  rcases hc : c s with ⟨calls, r⟩
  rw [hc] at h
  cases h
  rfl

theorem bind_of_ok {a : α} (h : (c s).result = .ok a) :
    (c >>= next) s = ⟨(c s).calls ++ (next a s).calls, (next a s).result⟩ := by
  show Consult.bind c next s = _
  unfold Consult.bind
  rcases hc : c s with ⟨calls, r⟩
  rw [hc] at h
  cases h
  rfl

theorem ofExcept_ok_bind (a : α) (next : α → Consult β) :
    (Consult.ofExcept (.ok a) >>= next) = next a :=
  funext fun _ => bind_of_ok rfl

theorem ofExcept_error_bind (e : Fault) (next : α → Consult β) :
    (Consult.ofExcept (.error e) >>= next) = fail e :=
  funext fun _ => bind_of_error rfl

end Consult

/-! ## Calls that fail -/

def faultOf {α : Type} : Except Fault α → Option Fault
  | .ok _ => none
  | .error e => some e

namespace Source

def fault? (s : Source) : Call → Option Fault
  | .listServers => faultOf s.listServers
  | .getServer id => faultOf (s.getServer id)
  | .listAccounts role => faultOf (s.listAccounts role)
  | .getAccount id => faultOf (s.getAccount id)
  | .listProducts => faultOf s.listProducts

/-- The calls of a plan up to and with the first that fails. -/
def attempt (s : Source) : List Call → List Call
  | [] => []
  | call :: plan => call :: if (s.fault? call).isSome then [] else s.attempt plan

def firstFault? (s : Source) (plan : List Call) : Option Fault :=
  plan.findSome? s.fault?

theorem firstFault?_cons (s : Source) (call : Call) (plan : List Call) :
    s.firstFault? (call :: plan) = (s.fault? call).or (s.firstFault? plan) := by
  rw [firstFault?, List.findSome?_cons]
  cases s.fault? call <;> rfl

theorem firstFault?_append (s : Source) (plan more : List Call) :
    s.firstFault? (plan ++ more) = (s.firstFault? plan).or (s.firstFault? more) :=
  List.findSome?_append

theorem attempt_append (s : Source) (plan more : List Call) :
    s.attempt (plan ++ more) =
      s.attempt plan ++ if (s.firstFault? plan).isSome then [] else s.attempt more := by
  induction plan with
  | nil => rfl
  | cons call plan ih =>
    rw [List.cons_append, attempt, attempt, firstFault?_cons]
    cases s.fault? call with
    | some e => rfl
    | none =>
      show call :: s.attempt (plan ++ more) = _
      rw [ih]
      rfl

/-- An attempt gets through the plan, or it ends with a call that fails after calls that do not. -/
theorem attempt_cases (s : Source) (plan : List Call) :
    ((∀ call ∈ plan, s.fault? call = none) ∧ s.firstFault? plan = none ∧ s.attempt plan = plan) ∨
      ∃ before call after e, plan = before ++ call :: after ∧
        (∀ call' ∈ before, s.fault? call' = none) ∧ s.fault? call = some e ∧
        s.firstFault? plan = some e ∧ s.attempt plan = before ++ [call] := by
  induction plan with
  | nil => exact .inl ⟨nofun, rfl, rfl⟩
  | cons call plan ih =>
    cases hf : s.fault? call with
    | some e =>
      refine .inr ⟨[], call, plan, e, rfl, nofun, hf, ?_, ?_⟩
      · rw [firstFault?_cons, hf]
        rfl
      · rw [attempt, hf]
        rfl
    | none =>
      have hfirst : s.firstFault? (call :: plan) = s.firstFault? plan := by
        rw [firstFault?_cons, hf]
        rfl
      have hattempt : s.attempt (call :: plan) = call :: s.attempt plan := by
        rw [attempt, hf]
        rfl
      rw [hfirst, hattempt]
      rcases ih with ⟨hall, hnone, heq⟩ | ⟨before, last, after, e, rfl, hall, hlast, hsome, heq⟩
      · exact .inl ⟨List.forall_mem_cons.mpr ⟨hf, hall⟩, hnone, by rw [heq]⟩
      · exact .inr ⟨call :: before, last, after, e, rfl, List.forall_mem_cons.mpr ⟨hf, hall⟩, hlast,
          hsome, by rw [heq, List.cons_append]⟩

theorem attempt_of_forall {s : Source} {plan : List Call} (h : ∀ call ∈ plan, s.fault? call = none) :
    s.attempt plan = plan := by
  rcases attempt_cases s plan with ⟨_, _, heq⟩ | ⟨before, call, after, e, rfl, _, hcall, _⟩
  · exact heq
  · rw [h call (List.mem_append_right _ (List.mem_cons_self ..))] at hcall
    cases hcall

theorem attempt_prefix (s : Source) (plan : List Call) : s.attempt plan <+: plan := by
  rcases attempt_cases s plan with ⟨_, _, heq⟩ | ⟨before, call, after, _, rfl, _, _, _, heq⟩
  · exact ⟨[], by rw [heq, List.append_nil]⟩
  · rw [heq]
    exact ⟨after, by rw [List.append_assoc, List.singleton_append]⟩

theorem fault?_of_mem_dropLast {s : Source} {plan : List Call} {call : Call}
    (h : call ∈ (s.attempt plan).dropLast) : s.fault? call = none := by
  rcases attempt_cases s plan with ⟨hall, _, heq⟩ | ⟨before, last, _, _, _, hall, _, _, heq⟩
  · rw [heq] at h
    exact hall call (List.dropLast_subset _ h)
  · rw [heq, List.dropLast_concat] at h
    exact hall call h

theorem getLast?_of_fault? {s : Source} {plan : List Call} {call : Call} {e : Fault}
    (h : call ∈ s.attempt plan) (hf : s.fault? call = some e) :
    (s.attempt plan).getLast? = some call ∧ s.firstFault? plan = some e := by
  rcases attempt_cases s plan with ⟨hall, _, heq⟩ | ⟨before, last, _, e', _, hall, hlast, hfirst, heq⟩
  · rw [heq] at h
    rw [hall call h] at hf
    cases hf
  · rw [heq, List.mem_append, List.mem_singleton] at h
    rcases h with h | rfl
    · rw [hall call h] at hf
      cases hf
    · rw [hf] at hlast
      cases hlast
      exact ⟨by rw [heq, List.getLast?_concat], hfirst⟩

end Source

/-! ## Plans -/

namespace Consult

variable {α β : Type}

/-- Makes the calls of a plan up to the first that fails, and then ends with its fault. -/
structure Follows (plan : List Call) (c : Consult α) : Prop where
  calls : ∀ s, (c s).calls = s.attempt plan
  fault : ∀ s e, s.firstFault? plan = some e → (c s).result = .error e

/-- Follows a plan and ends with a result if no call of it fails. -/
structure Completes (plan : List Call) (c : Consult α) : Prop extends Follows plan c where
  ok : ∀ s, s.firstFault? plan = none → ∃ a, (c s).result = .ok a

theorem completes_pure (a : α) : Completes [] (Pure.pure a : Consult α) :=
  ⟨⟨fun _ => rfl, fun _ _ h => nomatch h⟩, fun _ _ => ⟨a, rfl⟩⟩

theorem follows_ofExcept (r : Except Fault α) : Follows [] (ofExcept r) :=
  ⟨fun _ => rfl, fun _ _ h => nomatch h⟩

theorem completes_ask {call : Call} {answer : Source → Except Fault α}
    (h : ∀ s, s.fault? call = faultOf (answer s)) : Completes [call] (ask call answer) := by
  have hfirst : ∀ s : Source, s.firstFault? [call] = faultOf (answer s) := by
    intro s
    rw [Source.firstFault?_cons, h]
    cases answer s <;> rfl
  refine ⟨⟨fun s => ?_, fun s e he => ?_⟩, fun s hn => ?_⟩
  · rw [Source.attempt, Source.attempt, ite_self]
    rfl
  · rw [hfirst] at he
    show answer s = .error e
    cases ha : answer s with
    | ok a => rw [ha] at he; cases he
    | error f => rw [ha] at he; cases he; rfl
  · rw [hfirst] at hn
    show ∃ a, answer s = .ok a
    cases ha : answer s with
    | ok a => exact ⟨a, rfl⟩
    | error f => rw [ha] at hn; cases hn

theorem Follows.bind {plan more : List Call} {c : Consult α} {next : α → Consult β}
    (h : Completes plan c) (hn : ∀ a, Follows more (next a)) :
    Follows (plan ++ more) (c >>= next) := by
  constructor
  · intro s
    rw [Source.attempt_append]
    cases hf : s.firstFault? plan with
    | some e =>
      rw [bind_of_error (h.fault s e hf), h.calls, Option.isSome_some, if_pos rfl, List.append_nil]
    | none =>
      obtain ⟨a, ha⟩ := h.ok s hf
      rw [bind_of_ok ha, h.calls, (hn a).calls]
      rfl
  · intro s e he
    rw [Source.firstFault?_append] at he
    cases hf : s.firstFault? plan with
    | some e' =>
      rw [hf] at he
      cases he
      rw [bind_of_error (h.fault s e hf)]
    | none =>
      rw [hf, Option.none_or] at he
      obtain ⟨a, ha⟩ := h.ok s hf
      rw [bind_of_ok ha, (hn a).fault s e he]

theorem Completes.bind {plan more : List Call} {c : Consult α} {next : α → Consult β}
    (h : Completes plan c) (hn : ∀ a, Completes more (next a)) :
    Completes (plan ++ more) (c >>= next) := by
  refine ⟨.bind h fun a => (hn a).toFollows, fun s he => ?_⟩
  rw [Source.firstFault?_append, Option.or_eq_none_iff] at he
  obtain ⟨a, ha⟩ := h.ok s he.1
  obtain ⟨b, hb⟩ := (hn a).ok s he.2
  exact ⟨b, by rw [bind_of_ok ha, hb]⟩

end Consult

/-! ## What the console asks -/

namespace Browse

open Consult

theorem completes_servers : Completes [.listServers] servers :=
  completes_ask fun _ => rfl

theorem accounts_eq (role : Option Role) (s : Source) : accounts role s =
    ⟨[.listAccounts role], (s.listAccounts role).map (·.mergeSort older)⟩ := by
  unfold accounts
  cases h : s.listAccounts role with
  | error f =>
    rw [bind_of_error h]
    rfl
  | ok accounts =>
    rw [bind_of_ok h]
    rfl

theorem completes_accounts (role : Option Role) :
    Completes [.listAccounts role] (accounts role) :=
  .bind (completes_ask fun _ => rfl) fun _ => completes_pure _

theorem completes_availableProducts : Completes [.listProducts] availableProducts :=
  .bind (completes_ask fun _ => rfl) fun _ => completes_pure _

theorem server_eq (id : ServerId) (s : Source) : server id s =
    ⟨[.getServer id], (s.getServer id).bind (foundOr ⟨"Server", id.text⟩)⟩ := by
  unfold server
  cases h : s.getServer id with
  | error f =>
    rw [bind_of_error h]
    rfl
  | ok found =>
    rw [bind_of_ok h]
    rfl

theorem account_eq (id : AccountId) (s : Source) : account id s =
    ⟨[.getAccount id], (s.getAccount id).bind (foundOr ⟨"Account", id.text⟩)⟩ := by
  unfold account
  cases h : s.getAccount id with
  | error f =>
    rw [bind_of_error h]
    rfl
  | ok found =>
    rw [bind_of_ok h]
    rfl

theorem follows_server (id : ServerId) : Follows [.getServer id] (server id) :=
  .bind (completes_ask fun _ => rfl) fun _ => follows_ofExcept _

theorem follows_account (id : AccountId) : Follows [.getAccount id] (account id) :=
  .bind (completes_ask fun _ => rfl) fun _ => follows_ofExcept _

def layOut (c : Columns) : Consult GridLayout := do
  let servers ← servers
  return GridLayout.ofColumns servers c

theorem grid_none (standard : Columns) : grid standard none = Pure.pure standard >>= layOut := by
  simp only [grid]
  unfold layOut
  rfl

theorem grid_some (standard : Columns) (count : Int) :
    grid standard (some count) =
      Consult.ofExcept ((Columns.of count).mapError .invalidArgument) >>= layOut := by
  simp only [grid]
  unfold layOut
  rfl

theorem layOut_eq (c : Columns) (s : Source) : layOut c s =
    ⟨[.listServers], s.listServers.map fun servers => GridLayout.ofColumns servers c⟩ := by
  unfold layOut
  cases h : s.listServers with
  | error f =>
    rw [bind_of_error h]
    rfl
  | ok servers =>
    rw [bind_of_ok h]
    rfl

theorem completes_layOut (c : Columns) : Completes [.listServers] (layOut c) :=
  completes_servers.bind fun _ => completes_pure _

theorem completes_grid (standard : Columns) {columns : Option Int}
    (h : ∀ count, columns = some count → 0 < count) :
    Completes [.listServers] (grid standard columns) := by
  cases columns with
  | none =>
    rw [grid_none]
    exact .bind (completes_pure standard) completes_layOut
  | some count =>
    rw [grid_some, Columns.of, dif_pos (h count rfl)]
    exact .bind (completes_pure _) completes_layOut

theorem grid_of_not_pos (standard : Columns) {count : Int} (h : ¬ 0 < count) (s : Source) :
    grid standard (some count) s = ⟨[], .error (.invalidArgument ⟨count⟩)⟩ := by
  rw [grid_some, Columns.of, dif_neg h]
  exact bind_of_error rfl

end Browse

end ProxyConsole
