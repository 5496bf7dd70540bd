import ProxyConsole.Config
import ProxyConsole.Proofs.Numerals
import ProxyConsole.Proofs.Segments
import ProxyConsole.Proofs.Sequencing

/-!
# Where settings come from

The variables that give numbers are read first, in a fixed order, and the first that cannot be read is
the error. With these numbers at hand each setting is that of the first of its sources that has one.
What comes out is checked for a TCP port that is not zero and then for a positive column count.
-/

namespace ProxyConsole

open Decimal

namespace ConfigFile

/-- Settings that a file can be taken for; a file that is not there has none. -/
inductive Provides : ConfigFile → Settings → Prop
  | absent : Provides absent {}
  | parsed (s : Settings) : Provides (parsed s) s

theorem settings_eq_ok_iff {file : ConfigFile} {s : Settings} :
    file.settings = .ok s ↔ file.Provides s := by
  constructor
  · intro h
    cases file with
    | absent => cases h; exact .absent
    | unreadable => cases h
    | malformed => cases h
    | parsed s' => cases h; exact .parsed s
  · intro h
    cases h <;> rfl

theorem settings_eq_error_iff {file : ConfigFile} {e : ConfigError} :
    file.settings = .error e ↔
      file = .unreadable ∧ e = .unreadable ∨ file = .malformed ∧ e = .malformed := by
  cases file <;> simp [settings, eq_comm]

end ConfigFile

namespace Config

/-! ## Numbers in variables -/

def IsPort (text : String) (port : UInt16) : Prop :=
  (Field.unsigned 16).Takes text port.toNat

def IsCount (text : String) (count : Int) : Prop :=
  (Field.signed 64).Takes text count

/-- A host and a TCP port with a colon between them, the last of the text. -/
def IsBind (text : String) (b : String × UInt16) : Prop :=
  ∃ digits, text = b.1 ++ ":" ++ digits ∧ ':' ∉ digits.toList ∧ IsPort digits b.2

theorem readInteger_eq_ok_iff {f : Field} (hlow : f.lowest ≤ 0) (hhigh : 0 ≤ f.highest) {v : Variable}
    {text : String} {n : Int} : readInteger f v text = .ok n ↔ f.Takes text n := by
  rw [← f.read_eq_ok_iff hlow hhigh, readInteger]
  cases f.read text <;> simp

theorem readInteger_eq_error_iff {f : Field} (hlow : f.lowest ≤ 0) (hhigh : 0 ≤ f.highest)
    {v : Variable} {text : String} {e : ConfigError} :
    readInteger f v text = .error e ↔ e = .override v text ∧ ∀ n, ¬ f.Takes text n := by
  simp only [← f.read_eq_ok_iff hlow hhigh, readInteger]
  cases f.read text <;> simp [eq_comm]

theorem readCount_eq_ok_iff {v : Variable} {text : String} {n : Int} :
    readInteger (.signed 64) v text = .ok n ↔ IsCount text n :=
  readInteger_eq_ok_iff (by decide) (by decide)

theorem readCount_eq_error_iff {v : Variable} {text : String} {e : ConfigError} :
    readInteger (.signed 64) v text = .error e ↔ e = .override v text ∧ ∀ n, ¬ IsCount text n :=
  readInteger_eq_error_iff (by decide) (by decide)

theorem readPort_cases (v : Variable) (text : String) :
    (∃ p, readPort v text = .ok p ∧ ∀ q, IsPort text q ↔ q = p) ∨
      readPort v text = .error (.override v text) ∧ ∀ q, ¬ IsPort text q := by
  unfold readPort
  cases h : readInteger (.unsigned 16) v text with
  | error e =>
    obtain ⟨rfl, hno⟩ := (readInteger_eq_error_iff (by decide) (by decide)).mp h
    exact .inr ⟨rfl, fun q => hno _⟩
  | ok n =>
    have hn := (readInteger_eq_ok_iff (by decide) (by decide)).mp h
    obtain ⟨hlow, hhigh⟩ : 0 ≤ n ∧ n ≤ 65535 := hn.fits
    refine .inl ⟨_, rfl, fun q => ?_⟩
    constructor
    · intro hq
      have heq : (q.toNat : Int) = n := hq.unique (by decide) (by decide) hn
      rw [← heq, Int.toNat_natCast, UInt16.ofNat_toNat]
    · intro hq
      have heq : ((UInt16.ofNat n.toNat).toNat : Int) = n := by
        rw [UInt16.toNat_ofNat_of_lt' (by simp only [UInt16.size]; omega)]
        omega
      rw [hq, IsPort, heq]
      exact hn

theorem readPort_eq_ok_iff {v : Variable} {text : String} {p : UInt16} :
    readPort v text = .ok p ↔ IsPort text p := by
  rcases readPort_cases v text with ⟨q, hq, hport⟩ | ⟨hq, hno⟩
  · simp [hq, hport, eq_comm]
  · simp [hq, hno]

theorem readPort_eq_error_iff {v : Variable} {text : String} {e : ConfigError} :
    readPort v text = .error e ↔ e = .override v text ∧ ∀ p, ¬ IsPort text p := by
  rcases readPort_cases v text with ⟨q, hq, hport⟩ | ⟨hq, hno⟩
  · simp [hq, hport]
  · simp [hq, hno, eq_comm]

theorem readBind_of_not_mem {text : String} (h : ':' ∉ text.toList) :
    readBind text = .error (.override .bind text) := by
  simp only [readBind, Text.cutLast?_eq_none_iff.mpr h]

theorem readBind_of_mem (host : String) {digits : String} (h : ':' ∉ digits.toList) :
    readBind (host ++ ":" ++ digits) = (readPort .bind digits).map (Prod.mk host) := by
  have hcut : Text.cutLast? ':' (host ++ ":" ++ digits).toList = some (host.toList, digits.toList) :=
    Text.cutLast?_eq_some_iff.mpr ⟨by simp, h⟩
  simp only [readBind, hcut, String.ofList_toList]
  cases readPort .bind digits <;> rfl

theorem exists_last_colon {text : String} (h : ':' ∈ text.toList) :
    ∃ host digits, text = host ++ ":" ++ digits ∧ ':' ∉ digits.toList := by
  cases hcut : Text.cutLast? ':' text.toList with
  | none => exact absurd h (Text.cutLast?_eq_none_iff.mp hcut)
  | some parts =>
    obtain ⟨htext, hdigits⟩ := Text.cutLast?_eq_some_iff.mp hcut
    refine ⟨String.ofList parts.1, String.ofList parts.2, ?_, ?_⟩
    · rw [← String.toList_inj, htext]
      simp
    · rwa [String.toList_ofList]

theorem readBind_eq_ok_iff {text : String} {b : String × UInt16} :
    readBind text = .ok b ↔ IsBind text b := by
  constructor
  · intro h
    by_cases hcolon : ':' ∈ text.toList
    · obtain ⟨host', digits, rfl, hdigits⟩ := exists_last_colon hcolon
      rw [readBind_of_mem host' hdigits] at h
      cases hport : readPort .bind digits with
      | error e =>
        rw [hport] at h
        cases h
      | ok q =>
        rw [hport] at h
        cases h
        exact ⟨digits, rfl, hdigits, readPort_eq_ok_iff.mp hport⟩
    · rw [readBind_of_not_mem hcolon] at h
      cases h
  · intro h
    obtain ⟨digits, rfl, hdigits, hport⟩ := h
    rw [readBind_of_mem b.1 hdigits, readPort_eq_ok_iff.mpr hport]
    rfl

/-- What is amiss with a text that is no host and TCP port: all of it if it has no colon, else what
stands behind the last one. -/
inductive Unbound (text : String) : String → Prop
  | colon : ':' ∉ text.toList → Unbound text text
  | port {host digits : String} : text = host ++ ":" ++ digits → ':' ∉ digits.toList →
      (∀ p, ¬ IsPort digits p) → Unbound text digits

theorem readBind_eq_error_iff {text : String} {e : ConfigError} :
    readBind text = .error e ↔ ∃ value, e = .override .bind value ∧ Unbound text value := by
  constructor
  · intro h
    by_cases hcolon : ':' ∈ text.toList
    · obtain ⟨host, digits, rfl, hdigits⟩ := exists_last_colon hcolon
      rw [readBind_of_mem host hdigits] at h
      cases hport : readPort .bind digits with
      | error e' =>
        rw [hport] at h
        cases h
        obtain ⟨rfl, hno⟩ := readPort_eq_error_iff.mp hport
        exact ⟨digits, rfl, .port rfl hdigits hno⟩
      | ok q =>
        rw [hport] at h
        cases h
    · rw [readBind_of_not_mem hcolon] at h
      cases h
      exact ⟨text, rfl, .colon hcolon⟩
  · intro h
    obtain ⟨value, rfl, hvalue⟩ := h
    cases hvalue with
    | colon hcolon => exact readBind_of_not_mem hcolon
    | @port host _ htext hdigits hno =>
      rw [htext, readBind_of_mem host hdigits, readPort_eq_error_iff.mpr ⟨rfl, hno⟩]
      rfl

/-! ## One variable after the other -/

/-- The numbers that variables give. -/
structure Numbers where
  port : Option UInt16
  bind : Option (String × UInt16)
  columns : Option Int

def numbers (env : Environment) : Except ConfigError Numbers := do
  let port ← (env .port).mapM (readPort .port)
  let bind ← (env .bind).mapM readBind
  let columns ← (env .columns).mapM (readInteger (.signed 64) .columns)
  return ⟨port, bind, columns⟩

/-- The configuration with what the variables set, once their numbers are known. -/
def updated (c : Config) (env : Environment) (n : Numbers) : Config where
  host := (n.bind.map (·.1)).getD ((env .host).getD c.host)
  port := (n.bind.map (·.2)).getD (n.port.getD c.port)
  columnsPerRow := n.columns.getD c.columnsPerRow
  seedPath := (env .seed).or c.seedPath
  filter := (env .sharedLog).getD ((env .log).getD c.filter)

section
variable (env : Environment) (c : Config)

theorem override_host : override env .host setHost c =
    .ok { c with host := (env .host).getD c.host } := by
  unfold override
  cases env .host <;> rfl

theorem override_seed : override env .seed setSeed c =
    .ok { c with seedPath := (env .seed).or c.seedPath } := by
  unfold override
  cases env .seed <;> rfl

theorem override_filter (v : Variable) : override env v setFilter c =
    .ok { c with filter := (env v).getD c.filter } := by
  unfold override
  cases env v <;> rfl

theorem override_port : override env .port setPort c =
    ((env .port).mapM (readPort .port)).map fun p => { c with port := p.getD c.port } := by
  unfold override setPort
  cases env .port with
  | none => rfl
  | some value => simp only [Option.mapM_some]; cases readPort .port value <;> rfl

theorem override_bind : override env .bind setBind c =
    ((env .bind).mapM readBind).map fun b =>
      { c with host := (b.map (·.1)).getD c.host, port := (b.map (·.2)).getD c.port } := by
  unfold override setBind
  cases env .bind with
  | none => rfl
  | some value => simp only [Option.mapM_some]; cases readBind value <;> rfl

theorem override_columns : override env .columns setColumns c =
    ((env .columns).mapM (readInteger (.signed 64) .columns)).map fun n =>
      { c with columnsPerRow := n.getD c.columnsPerRow } := by
  unfold override setColumns
  cases env .columns with
  | none => rfl
  | some value => simp only [Option.mapM_some]; cases readInteger (.signed 64) .columns value <;> rfl

theorem applyOverrides_eq : c.applyOverrides env = (numbers env).map (c.updated env) := by
  unfold applyOverrides numbers
  simp only [override_host, override_port, override_bind, override_columns, override_seed,
    override_filter]
  cases (env .port).mapM (readPort .port) with
  | error e => rfl
  | ok p =>
    cases (env .bind).mapM readBind with
    | error e => rfl
    | ok b =>
      cases (env .columns).mapM (readInteger (.signed 64) .columns) with
      | error e => rfl
      | ok n => rfl

end

/-! ## Numbers that can be read -/

structure Given (env : Environment) (n : Numbers) : Prop where
  port : Option.Rel IsPort (env .port) n.port
  bind : Option.Rel IsBind (env .bind) n.bind
  columns : Option.Rel IsCount (env .columns) n.columns

def PortLegible (env : Environment) : Prop :=
  ∀ text, env .port = some text → ∃ p, IsPort text p

def BindLegible (env : Environment) : Prop :=
  ∀ text, env .bind = some text → ∃ b, IsBind text b

def ColumnsLegible (env : Environment) : Prop :=
  ∀ text, env .columns = some text → ∃ n, IsCount text n

/-- The variables that give numbers can all be read. -/
structure Legible (env : Environment) : Prop where
  port : PortLegible env
  bind : BindLegible env
  columns : ColumnsLegible env

/-- The first variable that is set to something else than it should be, and what it was taken for. -/
inductive Illegible (env : Environment) : Variable → String → Prop
  | port {text : String} : env .port = some text → (∀ p, ¬ IsPort text p) → Illegible env .port text
  | bind {text value : String} : PortLegible env → env .bind = some text → Unbound text value →
      Illegible env .bind value
  | columns {text : String} : PortLegible env → BindLegible env → env .columns = some text →
      (∀ n, ¬ IsCount text n) → Illegible env .columns text

theorem exists_rel_iff {α β : Type} {R : α → β → Prop} {o : Option α} :
    (∃ r, Option.Rel R o r) ↔ ∀ a, o = some a → ∃ b, R a b := by
  cases o with
  | none =>
    simp only [reduceCtorEq, false_implies, implies_true, iff_true]
    exact ⟨none, .none⟩
  | some a =>
    simp only [Option.some.injEq, forall_eq']
    constructor
    · intro h
      obtain ⟨_, hab⟩ := h
      cases hab with
      | some hab => exact ⟨_, hab⟩
    · intro h
      obtain ⟨b, hb⟩ := h
      exact ⟨some b, .some hb⟩

theorem numbers_eq_ok_iff {env : Environment} {n : Numbers} : numbers env = .ok n ↔ Given env n := by
  unfold numbers
  simp only [except_bind_eq_ok_iff, option_mapM_eq_ok_iff fun _ _ => readPort_eq_ok_iff,
    option_mapM_eq_ok_iff fun _ _ => readBind_eq_ok_iff,
    option_mapM_eq_ok_iff fun _ _ => readCount_eq_ok_iff]
  constructor
  · intro h
    obtain ⟨p, hp, b, hb, c, hc, hn⟩ := h
    cases hn
    exact ⟨hp, hb, hc⟩
  · intro h
    exact ⟨n.port, h.port, n.bind, h.bind, n.columns, h.columns, rfl⟩

theorem numbers_eq_error_iff {env : Environment} {e : ConfigError} :
    numbers env = .error e ↔ ∃ v value, e = .override v value ∧ Illegible env v value := by
  unfold numbers
  simp only [except_bind_eq_error_iff, option_mapM_eq_ok_iff fun _ _ => readPort_eq_ok_iff,
    option_mapM_eq_ok_iff fun _ _ => readBind_eq_ok_iff,
    option_mapM_eq_ok_iff fun _ _ => readCount_eq_ok_iff,
    option_mapM_eq_error_iff, readPort_eq_error_iff, readBind_eq_error_iff, readCount_eq_error_iff]
  constructor
  · intro h
    rcases h with ⟨text, htext, rfl, hno⟩ | ⟨p, hp, ⟨text, htext, value, rfl, hvalue⟩ |
      ⟨b, hb, ⟨text, htext, rfl, hno⟩ | ⟨c, _, hlast⟩⟩⟩
    · exact ⟨.port, text, rfl, .port htext hno⟩
    · exact ⟨.bind, value, rfl, .bind (exists_rel_iff.mp ⟨p, hp⟩) htext hvalue⟩
    · exact ⟨.columns, text, rfl,
        .columns (exists_rel_iff.mp ⟨p, hp⟩) (exists_rel_iff.mp ⟨b, hb⟩) htext hno⟩
    · cases hlast
  · intro h
    obtain ⟨v, value, rfl, hvalue⟩ := h
    cases hvalue with
    | port htext hno => exact .inl ⟨value, htext, rfl, hno⟩
    | bind hport htext hvalue =>
      obtain ⟨p, hp⟩ := exists_rel_iff.mpr hport
      exact .inr ⟨p, hp, .inl ⟨_, htext, value, rfl, hvalue⟩⟩
    | columns hport hbind htext hno =>
      obtain ⟨p, hp⟩ := exists_rel_iff.mpr hport
      obtain ⟨b, hb⟩ := exists_rel_iff.mpr hbind
      exact .inr ⟨p, hp, .inr ⟨b, hb, .inl ⟨value, htext, rfl, hno⟩⟩⟩

/-! ## The configuration -/

/-- Every setting comes from the first of its sources that has it. The variable for the address to
bind to goes before those for the host and the TCP port, and the shared log variable before the
console's own. -/
structure Resolves (s : Settings) (env : Environment) (c : Config) : Prop where
  bound : ∀ text, env .bind = some text → IsBind text (c.host, c.port)
  host : env .bind = none → c.host = ((env .host).or s.host).getD ({} : Config).host
  port : env .bind = none → ∀ text, env .port = some text → IsPort text c.port
  filePort : env .bind = none → env .port = none → c.port = s.port.getD ({} : Config).port
  columns : ∀ text, env .columns = some text → IsCount text c.columnsPerRow
  fileColumns : env .columns = none →
    c.columnsPerRow = s.columnsPerRow.getD ({} : Config).columnsPerRow
  seed : c.seedPath = (env .seed).or s.seedPath
  filter : c.filter = ((env .sharedLog).or ((env .log).or s.filter)).getD ({} : Config).filter

theorem IsPort.unique {text : String} {p q : UInt16} (hp : IsPort text p) (hq : IsPort text q) :
    p = q := by
  rw [← readPort_eq_ok_iff (v := .port)] at hp hq
  rw [hp] at hq
  exact Except.ok.inj hq

theorem IsBind.unique {text : String} {a b : String × UInt16} (ha : IsBind text a)
    (hb : IsBind text b) : a = b := by
  rw [← readBind_eq_ok_iff] at ha hb
  rw [ha] at hb
  exact Except.ok.inj hb

theorem Resolves.unique {s : Settings} {env : Environment} {c c' : Config} (h : Resolves s env c)
    (h' : Resolves s env c') : c = c' := by
  have hbind : c.host = c'.host ∧ c.port = c'.port := by
    cases hb : env .bind with
    | some text => exact Prod.mk.inj ((h.bound text hb).unique (h'.bound text hb))
    | none =>
      refine ⟨(h.host hb).trans (h'.host hb).symm, ?_⟩
      cases hp : env .port with
      | some text => exact (h.port hb text hp).unique (h'.port hb text hp)
      | none => exact (h.filePort hb hp).trans (h'.filePort hb hp).symm
  have hcolumns : c.columnsPerRow = c'.columnsPerRow := by
    cases hn : env .columns with
    | some text => exact (h.columns text hn).unique (by decide) (by decide) (h'.columns text hn)
    | none => exact (h.fileColumns hn).trans (h'.fileColumns hn).symm
  have hseed : c.seedPath = c'.seedPath := h.seed.trans h'.seed.symm
  have hfilter : c.filter = c'.filter := h.filter.trans h'.filter.symm
  cases c
  cases c'
  simp only [Config.mk.injEq]
  exact ⟨hbind.1, hbind.2, hcolumns, hseed, hfilter⟩

theorem Given.resolves {env : Environment} {n : Numbers} (h : Given env n) (s : Settings) :
    Resolves s env ((ofSettings s).updated env n) := by
  obtain ⟨port, bind, columns⟩ := n
  obtain ⟨hport, hbind, hcolumns⟩ := h
  constructor
  case bound =>
    intro text htext
    rw [htext] at hbind
    cases hbind with
    | some hb => exact hb
  case host =>
    intro hb
    rw [hb] at hbind
    cases hbind
    exact Option.getD_or.symm
  case port =>
    intro hb text htext
    rw [hb] at hbind
    rw [htext] at hport
    cases hbind
    cases hport with
    | some hp => exact hp
  case filePort =>
    intro hb hp
    rw [hb] at hbind
    rw [hp] at hport
    cases hbind
    cases hport
    rfl
  case columns =>
    intro text htext
    rw [htext] at hcolumns
    cases hcolumns with
    | some hn => exact hn
  case fileColumns =>
    intro hn
    rw [hn] at hcolumns
    cases hcolumns
    rfl
  case seed => rfl
  case filter =>
    rw [Option.getD_or, Option.getD_or]
    rfl

theorem validate_cases (c : Config) :
    c.port = 0 ∧ c.validate = .error .zeroPort ∨
      c.port ≠ 0 ∧ c.columnsPerRow < 1 ∧ c.validate = .error (.columns ⟨c.columnsPerRow⟩) ∨
      c.port ≠ 0 ∧ 1 ≤ c.columnsPerRow ∧ c.validate = .ok () ∧
        ∃ columns, c.columns = .ok columns ∧ (columns.count : Int) = c.columnsPerRow := by
  unfold validate columns Columns.of
  by_cases hport : c.port = 0
  · exact .inl ⟨hport, if_pos hport⟩
  · rw [if_neg hport]
    by_cases hcolumns : 0 < c.columnsPerRow
    · rw [dif_pos hcolumns]
      refine .inr (.inr ⟨hport, hcolumns, rfl, _, rfl, ?_⟩)
      show (c.columnsPerRow.toNat : Int) = c.columnsPerRow
      omega
    · rw [dif_neg hcolumns]
      exact .inr (.inl ⟨hport, by omega, rfl⟩)

/-- What keeps the console from its configuration: the first thing that is amiss. -/
inductive Fails (file : ConfigFile) (env : Environment) : ConfigError → Prop
  | unreadable : file = .unreadable → Fails file env .unreadable
  | malformed : file = .malformed → Fails file env .malformed
  | override {s : Settings} {v : Variable} {value : String} : file.Provides s →
      Illegible env v value → Fails file env (.override v value)
  | zeroPort {s : Settings} {c : Config} : file.Provides s → Legible env → Resolves s env c →
      c.port = 0 → Fails file env .zeroPort
  | columns {s : Settings} {c : Config} : file.Provides s → Legible env → Resolves s env c →
      c.port ≠ 0 → c.columnsPerRow < 1 → Fails file env (.columns ⟨c.columnsPerRow⟩)

theorem legible_iff {env : Environment} : Legible env ↔ ∃ n, Given env n := by
  constructor
  · intro h
    obtain ⟨port, hport⟩ := exists_rel_iff.mpr h.port
    obtain ⟨bind, hbind⟩ := exists_rel_iff.mpr h.bind
    obtain ⟨columns, hcolumns⟩ := exists_rel_iff.mpr h.columns
    exact ⟨⟨port, bind, columns⟩, hport, hbind, hcolumns⟩
  · intro h
    obtain ⟨n, hn⟩ := h
    exact ⟨exists_rel_iff.mp ⟨_, hn.port⟩, exists_rel_iff.mp ⟨_, hn.bind⟩,
      exists_rel_iff.mp ⟨_, hn.columns⟩⟩

theorem load_of_resolves {file : ConfigFile} {env : Environment} {s : Settings} {c : Config}
    (hs : file.Provides s) (hl : Legible env) (hc : Resolves s env c) :
    load file env = c.validate.map fun _ => c := by
  obtain ⟨n, hn⟩ := legible_iff.mp hl
  have hload : (ofSettings s).applyOverrides env = .ok c := by
    rw [applyOverrides_eq, numbers_eq_ok_iff.mpr hn, hc.unique (hn.resolves s)]
    rfl
  unfold load
  rw [ConfigFile.settings_eq_ok_iff.mpr hs]
  show ((ofSettings s).applyOverrides env >>= fun c => c.validate >>= fun _ => pure c) = _
  rw [hload]
  show (c.validate >>= fun _ => pure c) = _
  cases c.validate <;> rfl

theorem load_of_illegible {file : ConfigFile} {env : Environment} {s : Settings} {v : Variable}
    {value : String} (hs : file.Provides s) (h : Illegible env v value) :
    load file env = .error (.override v value) := by
  unfold load
  rw [ConfigFile.settings_eq_ok_iff.mpr hs]
  show ((ofSettings s).applyOverrides env >>= fun c => c.validate >>= fun _ => pure c) = _
  rw [applyOverrides_eq, numbers_eq_error_iff.mpr ⟨v, value, rfl, h⟩]
  rfl

/-- All that can become of loading. -/
theorem load_cases (file : ConfigFile) (env : Environment) :
    (∃ e, load file env = .error e ∧ Fails file env e) ∨
      ∃ s c, file.Provides s ∧ Legible env ∧ Resolves s env c ∧ c.port ≠ 0 ∧ 1 ≤ c.columnsPerRow ∧
        load file env = .ok c ∧
        ∃ columns, c.columns = .ok columns ∧ (columns.count : Int) = c.columnsPerRow := by
  cases hs : file.settings with
  | error e =>
    have hload : load file env = .error e := by
      unfold load
      rw [hs]
      rfl
    rcases ConfigFile.settings_eq_error_iff.mp hs with ⟨hfile, rfl⟩ | ⟨hfile, rfl⟩
    · exact .inl ⟨_, hload, .unreadable hfile⟩
    · exact .inl ⟨_, hload, .malformed hfile⟩
  | ok s =>
    rw [ConfigFile.settings_eq_ok_iff] at hs
    cases hn : numbers env with
    | error e =>
      obtain ⟨v, value, rfl, h⟩ := numbers_eq_error_iff.mp hn
      exact .inl ⟨_, load_of_illegible hs h, .override hs h⟩
    | ok n =>
      rw [numbers_eq_ok_iff] at hn
      have hl : Legible env := legible_iff.mpr ⟨n, hn⟩
      have hc := hn.resolves s
      have hload := load_of_resolves hs hl hc
      rcases validate_cases ((ofSettings s).updated env n) with ⟨hport, hv⟩ | ⟨hport, hcolumns, hv⟩ |
        ⟨hport, hcolumns, hv, hok⟩
      · rw [hv] at hload
        exact .inl ⟨_, hload, .zeroPort hs hl hc hport⟩
      · rw [hv] at hload
        exact .inl ⟨_, hload, .columns hs hl hc hport hcolumns⟩
      · rw [hv] at hload
        exact .inr ⟨s, _, hs, hl, hc, hport, hcolumns, hload, hok⟩

theorem Fails.load_eq {file : ConfigFile} {env : Environment} {e : ConfigError}
    (h : Fails file env e) : load file env = .error e := by
  cases h with
  | unreadable hfile =>
    rw [hfile]
    rfl
  | malformed hfile =>
    rw [hfile]
    rfl
  | override hs h => exact load_of_illegible hs h
  | @zeroPort s c hs hl hc hport =>
    rw [load_of_resolves hs hl hc]
    rcases c.validate_cases with ⟨_, hv⟩ | ⟨hne, _⟩ | ⟨hne, _⟩
    · rw [hv]
      rfl
    · exact absurd hport hne
    · exact absurd hport hne
  | @columns s c hs hl hc hport hcolumns =>
    rw [load_of_resolves hs hl hc]
    rcases c.validate_cases with ⟨hzero, _⟩ | ⟨_, _, hv⟩ | ⟨_, hle, _⟩
    · exact absurd hzero hport
    · rw [hv]
      rfl
    · omega

theorem load_eq_ok_iff {file : ConfigFile} {env : Environment} {c : Config} :
    load file env = .ok c ↔ ∃ s, file.Provides s ∧ Legible env ∧ Resolves s env c ∧ c.port ≠ 0 ∧
      1 ≤ c.columnsPerRow := by
  constructor
  · intro h
    rcases load_cases file env with ⟨e, he, _⟩ | ⟨s, c', hs, hl, hc, hport, hcolumns, hload, _⟩
    · rw [h] at he
      cases he
    · rw [h] at hload
      cases hload
      exact ⟨s, hs, hl, hc, hport, hcolumns⟩
  · intro h
    obtain ⟨s, hs, hl, hc, hport, hcolumns⟩ := h
    rw [load_of_resolves hs hl hc]
    rcases c.validate_cases with ⟨hzero, _⟩ | ⟨_, hlt, _⟩ | ⟨_, _, hv, _⟩
    · exact absurd hzero hport
    · omega
    · rw [hv]
      rfl

theorem columns_of_load {file : ConfigFile} {env : Environment} {c : Config}
    (h : load file env = .ok c) :
    ∃ columns, c.columns = .ok columns ∧ (columns.count : Int) = c.columnsPerRow := by
  rcases load_cases file env with ⟨e, he, _⟩ | ⟨s, c', _, _, _, _, _, hload, hok⟩
  · rw [h] at he
    cases he
  · rw [h] at hload
    cases hload
    exact hok

theorem load_eq_error_iff {file : ConfigFile} {env : Environment} {e : ConfigError} :
    load file env = .error e ↔ Fails file env e := by
  refine ⟨fun h => ?_, Fails.load_eq⟩
  rcases load_cases file env with ⟨e', he, hfails⟩ | ⟨s, c, _, _, _, _, _, hload, _⟩
  · rw [h] at he
    cases he
    exact hfails
  · rw [h] at hload
    cases hload

/-- Loading is exact: it succeeds with the configuration that the sources resolve to, if the file and
the variables can be read and the numbers can be used, and else fails with what is amiss first. -/
theorem load_exact (file : ConfigFile) (env : Environment) :
    (∀ c, load file env = .ok c ↔ ∃ s, file.Provides s ∧ Legible env ∧ Resolves s env c ∧
      c.port ≠ 0 ∧ 1 ≤ c.columnsPerRow) ∧
    (∀ c, load file env = .ok c →
      ∃ columns, c.columns = .ok columns ∧ (columns.count : Int) = c.columnsPerRow) ∧
    ∀ e, load file env = .error e ↔ Fails file env e :=
  ⟨fun _ => load_eq_ok_iff, fun _ => columns_of_load, fun _ => load_eq_error_iff⟩

/-- An address to bind to hides a TCP port that is zero, but none that is no number. -/
example :
    let env (port : String) : Environment := fun
      | .port => some port
      | .bind => some "[::1]:8080"
      | _ => none
    load (.parsed { host := some "10.0.0.1" }) (env "0") = .ok { host := "[::1]", port := 8080 } ∧
      load .absent (env "http") = .error (.override .port "http") :=
  ⟨rfl, rfl⟩

end Config

end ProxyConsole
