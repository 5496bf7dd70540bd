import ProxyConsole.Proofs.SeedLoading

/-!
# Accounts from drafts

A draft may lack any of its fields. It makes an account just when it has a phone that is not blank and
an email with something on both sides of its first at sign. The account then has what the draft has,
and a name to show: an alias is never empty, and neither is an email that was checked.
-/

namespace ProxyConsole

theorem not_isBlank_iff_exists {s : String} :
    ¬ IsBlank s ↔ ∃ c ∈ s.toList, Text.isSpace c = false := by
  simp [IsBlank]

theorem IsAddress.ne_empty {s : String} (h : IsAddress s) : s ≠ "" := by
  intro hs
  obtain ⟨user, domain, huser, _, _, rfl⟩ := h
  simp [huser] at hs

namespace Account

theorem validate_eq_error_iff {a : Account} {e : Fault} :
    a.validate = .error e ↔
      IsBlank a.phone ∧ e = .validation .emptyPhone ∨
        ¬ IsBlank a.phone ∧ ¬ IsAddress a.email ∧ e = .validation (.invalidEmail a.email) := by
  unfold validate
  rw [← isBlank_iff, ← isEmail_iff]
  by_cases hphone : Text.isBlank a.phone = true
  · simp [hphone]
    exact eq_comm
  · by_cases hemail : isEmail a.email = true
    · simp [hphone, hemail]
    · simp [hphone, hemail]
      exact eq_comm

namespace Draft

section
variable (d : Draft) (freshId : AccountId) (now : Instant)

/-- The account before its phone and its email are looked at. -/
def account : Account :=
  { id := d.id.getD freshId
    role := d.role.getD .user
    nickname := d.nickname.filter (· ≠ "")
    phone := d.phone.getD ""
    email := d.email.getD ""
    password := d.password.getD ""
    createdAt := d.createdAt.getD now }

theorem build_eq :
    d.build freshId now = (d.account freshId now).validate.map fun _ => d.account freshId now := by
  show ((d.account freshId now).validate >>= fun _ => pure (d.account freshId now)) = _
  cases (d.account freshId now).validate with
  | error e => rfl
  | ok u => rfl

end

variable {d : Draft} {freshId : AccountId} {now : Instant} {a : Account}

theorem build_eq_ok_iff :
    d.build freshId now = .ok a ↔
      (d.account freshId now).validate = .ok () ∧ a = d.account freshId now := by
  rw [build_eq]
  cases (d.account freshId now).validate with
  | error e => simp [Except.map]
  | ok u => simp [Except.map, eq_comm]

theorem build_eq_error_iff {e : Fault} :
    d.build freshId now = .error e ↔ (d.account freshId now).validate = .error e := by
  rw [build_eq]
  cases (d.account freshId now).validate with
  | error e => simp [Except.map]
  | ok u => simp [Except.map]

/-! ## What a draft needs -/

/-- A phone with a character that is not white space. -/
def HasPhone (d : Draft) : Prop :=
  ∃ phone, d.phone = some phone ∧ ∃ c ∈ phone.toList, Text.isSpace c = false

def HasEmail (d : Draft) : Prop :=
  ∃ email, d.email = some email ∧ IsAddress email

theorem hasPhone_iff : d.HasPhone ↔ ¬ IsBlank (d.phone.getD "") := by
  unfold HasPhone
  simp only [← not_isBlank_iff_exists]
  cases d.phone with
  | none => simp [IsBlank]
  | some phone => simp

theorem hasEmail_iff : d.HasEmail ↔ IsAddress (d.email.getD "") := by
  unfold HasEmail
  cases d.email with
  | none =>
    have hempty : ¬ IsAddress "" := fun h => h.ne_empty rfl
    simp [hempty]
  | some email => simp

/-- Only the first at sign counts. -/
example : HasEmail { email := some "a@@" } ∧ ¬ HasEmail { email := some "@a@b" } := by
  simp only [hasEmail_iff, ← isEmail_iff]
  decide

/-- The first thing that keeps a draft from being an account. -/
inductive Lacks (d : Draft) : Violation → Prop
  | phone : ¬ d.HasPhone → Lacks d .emptyPhone
  | email : d.HasPhone → ¬ d.HasEmail → Lacks d (.invalidEmail (d.email.getD ""))

theorem validate_account_eq_ok_iff :
    (d.account freshId now).validate = .ok () ↔ d.HasPhone ∧ d.HasEmail := by
  rw [validate_eq_ok_iff, hasPhone_iff, hasEmail_iff]
  rfl

theorem validate_account_eq_error_iff {e : Fault} :
    (d.account freshId now).validate = .error e ↔ ∃ v, e = .validation v ∧ d.Lacks v := by
  have hphone : IsBlank (d.phone.getD "") ↔ ¬ d.HasPhone := by rw [hasPhone_iff, not_not]
  rw [validate_eq_error_iff]
  show IsBlank (d.phone.getD "") ∧ _ ∨
    ¬ IsBlank (d.phone.getD "") ∧ ¬ IsAddress (d.email.getD "") ∧ _ ↔ _
  rw [hphone, ← hasEmail_iff, not_not]
  constructor
  · intro h
    rcases h with ⟨hphone, rfl⟩ | ⟨hphone, hemail, rfl⟩
    · exact ⟨_, rfl, .phone hphone⟩
    · exact ⟨_, rfl, .email hphone hemail⟩
  · intro h
    obtain ⟨v, rfl, hv⟩ := h
    cases hv with
    | phone hphone => exact .inl ⟨hphone, rfl⟩
    | email hphone hemail => exact .inr ⟨hphone, hemail, rfl⟩

/-! ## What an account has of its draft -/

structure Keeps (d : Draft) (freshId : AccountId) (now : Instant) (a : Account) : Prop where
  id : a.id = d.id.getD freshId
  role : a.role = d.role.getD .user
  phone : d.phone = some a.phone
  email : d.email = some a.email
  password : a.password = d.password.getD ""
  createdAt : a.createdAt = d.createdAt.getD now
  unnamed : a.nickname = none ↔ d.nickname = none ∨ d.nickname = some ""
  named : ∀ name, a.nickname = some name → d.nickname = some name

theorem keeps_account (hphone : d.HasPhone) (hemail : d.HasEmail) :
    d.Keeps freshId now (d.account freshId now) := by
  obtain ⟨phone, hphone, _⟩ := hphone
  obtain ⟨email, hemail, _⟩ := hemail
  constructor
  case phone => simp [account, hphone]
  case email => simp [account, hemail]
  case unnamed =>
    simp only [account]
    cases d.nickname with
    | none => simp
    | some name => simp [Option.filter_eq_none_iff]
  case named =>
    intro name hname
    exact (Option.filter_eq_some_iff.mp hname).1
  all_goals rfl

/-- The name in lists: the alias if there is one, else the email, and never nothing. -/
structure IsShown (a : Account) : Prop where
  named : ∀ name, a.nickname = some name → a.displayName = name
  unnamed : a.nickname = none → a.displayName = a.email
  visible : a.displayName ≠ ""

theorem isShown_account (hemail : d.HasEmail) : IsShown (d.account freshId now) := by
  have hnamed : ∀ name, (d.account freshId now).nickname = some name →
      (d.account freshId now).displayName = name := by
    intro name hname
    rw [displayName, hname, Option.getD_some]
  have hunnamed : (d.account freshId now).nickname = none →
      (d.account freshId now).displayName = (d.account freshId now).email := by
    intro hnone
    rw [displayName, hnone, Option.getD_none]
  refine ⟨hnamed, hunnamed, ?_⟩
  cases hname : (d.account freshId now).nickname with
  | none =>
    rw [hunnamed hname]
    exact (hasEmail_iff.mp hemail).ne_empty
  | some name =>
    rw [hnamed name hname]
    simpa using (Option.filter_eq_some_iff.mp hname).2

/-- Whatever fields a draft has, it makes an account if and only if it has a phone and an email. Else
the error names what is lacking first. The account has what the draft has, passes its own check, and
has a name to show. -/
theorem build_exact (d : Draft) (freshId : AccountId) (now : Instant) :
    ((∃ a, d.build freshId now = .ok a) ↔ d.HasPhone ∧ d.HasEmail) ∧
    (∀ e, d.build freshId now = .error e ↔ ∃ v, e = .validation v ∧ d.Lacks v) ∧
    ∀ a, d.build freshId now = .ok a →
      d.Keeps freshId now a ∧ a.validate = .ok () ∧ IsShown a := by
  refine ⟨?_, fun e => build_eq_error_iff.trans validate_account_eq_error_iff, fun a ha => ?_⟩
  · simp only [build_eq_ok_iff, exists_and_left, exists_eq, and_true]
    exact validate_account_eq_ok_iff
  · obtain ⟨hvalid, rfl⟩ := build_eq_ok_iff.mp ha
    obtain ⟨hphone, hemail⟩ := validate_account_eq_ok_iff.mp hvalid
    exact ⟨keeps_account hphone hemail, hvalid, isShown_account hemail⟩

end Draft

end Account

end ProxyConsole
