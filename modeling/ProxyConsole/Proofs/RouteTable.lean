import Mathlib.Data.List.Nodup
import ProxyConsole.Proofs.Segments

/-!
# Route tables that edits lead to

Every edit of a table either leaves it alone or mounts a path of literal segments that the console
does not keep for itself, or moves the fallback to a path that answers. So every run of edits keeps
paths apart, keeps the paths of the console free, and never loses the target of the fallback.
-/

namespace ProxyConsole

/-- Among things with keys of their own, each is found under its key. -/
theorem find?_of_nodup_map {α κ : Type} [DecidableEq κ] {key : α → κ} {l : List α}
    (h : (l.map key).Nodup) {a : α} (ha : a ∈ l) : l.find? (key · = key a) = some a := by
  cases hf : l.find? (key · = key a) with
  | none => exact absurd (decide_eq_true rfl) (List.find?_eq_none.mp hf a ha)
  | some b =>
    have hb := List.find?_some hf
    rw [decide_eq_true_eq] at hb
    rw [List.inj_on_of_nodup_map h (List.mem_of_find?_eq_some hf) ha hb]

namespace RouteTable

/-! ## Paths that can be mounted -/

/-- A segment that stands for nothing but its own text. -/
def IsPlainSegment (s : List Char) : Prop :=
  s ≠ [] ∧ '/' ∉ s ∧ s.head? ≠ some '*' ∧ s.head? ≠ some ':' ∧ '\x7b' ∉ s ∧ '\x7d' ∉ s

/-- A slash, and one or more plain segments with slashes between them. -/
def IsPlainPath (path : String) : Prop :=
  ∃ segments : List (List Char), segments ≠ [] ∧ (∀ s ∈ segments, IsPlainSegment s) ∧
    path.toList = '/' :: ['/'].intercalate segments

/-- The paths that the console keeps for itself. -/
def IsReserved (path : String) : Prop :=
  path = "/" ∨ path = "/health" ∨ path = "/api" ∨ "/api/".toList <+: path.toList

theorem isReserved_iff (path : String) : isReserved path = true ↔ IsReserved path := by
  simp [isReserved, IsReserved, or_assoc]

theorem isLiteral_iff {s : List Char} (h : '/' ∉ s) : isLiteral s = true ↔ IsPlainSegment s := by
  cases s with
  | nil => simp [isLiteral, IsPlainSegment]
  | cons c cs =>
    simp only [isLiteral, IsPlainSegment, h, Bool.and_eq_true, decide_eq_true_eq, List.all_eq_true,
      ne_eq, reduceCtorEq, not_false_eq_true, true_and, List.head?_cons, Option.some.injEq, and_assoc]
    refine and_congr_right fun _ => and_congr_right fun _ => ⟨fun hall => ?_, fun ⟨ho, hc⟩ x hx => ?_⟩
    · exact ⟨fun ho => (hall _ ho).1 rfl, fun hc => (hall _ hc).2 rfl⟩
    · exact ⟨fun e => ho (e ▸ hx), fun e => hc (e ▸ hx)⟩

theorem isPlainPath_iff {path : String} {rest : List Char} (h : path.toList = '/' :: rest) :
    IsPlainPath path ↔ ∀ s ∈ Text.split '/' rest, isLiteral s = true := by
  constructor
  · rintro ⟨segments, hne, hplain, hpath⟩
    rw [h, List.cons_inj_right] at hpath
    have hsplit := Text.split_eq_iff.mpr ⟨hne, fun s hs => (hplain s hs).2.1, hpath⟩
    rw [hsplit]
    exact fun s hs => (isLiteral_iff (hplain s hs).2.1).mpr (hplain s hs)
  · intro hall
    refine ⟨_, Text.split_ne_nil '/' rest, fun s hs => ?_, ?_⟩
    · exact (isLiteral_iff (Text.not_mem_of_mem_split hs)).mp (hall s hs)
    · rw [h, Text.intercalate_split]

/-- The path of the home page has no segment, so only its being reserved stops it. -/
theorem checkPath_ok_iff (path : String) :
    checkPath path = .ok () ↔ IsPlainPath path ∧ ¬ IsReserved path := by
  unfold checkPath
  split
  · rename_i rest hp
    rw [isPlainPath_iff hp, ← isReserved_iff, ← List.all_eq_true]
    by_cases hr : rest = []
    · have : path = "/" := String.toList_inj.mp (by rw [hp, hr]; rfl)
      subst this
      simp [isReserved, hr]
    · cases hall : (Text.split '/' rest).all isLiteral <;> cases hres : isReserved path <;> simp [hr]
  · rename_i hp
    constructor
    · nofun
    · rintro ⟨⟨segments, _, _, hs⟩, _⟩
      exact absurd hs (hp _)

/-! ## Entries -/

def paths (t : RouteTable) : List String :=
  t.entries.map (·.path)

theorem map_path_put (path : String) (view : View) (es : List ViewRoute) :
    (put path view es).map (·.path) =
      if path ∈ es.map (·.path) then es.map (·.path) else es.map (·.path) ++ [path] := by
  induction es with
  | nil => simp [put]
  | cons e es ih =>
    rw [put]
    by_cases h : e.path = path
    · simp [h]
    · simp only [if_neg h, List.map_cons, List.mem_cons, Ne.symm h, false_or, ih]
      split <;> rfl

theorem put_of_not_mem {path : String} {view : View} {es : List ViewRoute}
    (h : path ∉ es.map (·.path)) : put path view es = es ++ [⟨path, view⟩] := by
  induction es with
  | nil => rfl
  | cons e es ih =>
    rw [List.map_cons, List.mem_cons, not_or] at h
    rw [put, if_neg (Ne.symm h.1), ih h.2, List.cons_append]

theorem viewAt?_isSome_iff (t : RouteTable) (path : String) :
    (t.viewAt? path).isSome ↔ path ∈ t.paths := by
  simp [viewAt?, paths]

/-! ## Edits -/

/-- What is true of every table in use. -/
structure WellFormed (t : RouteTable) : Prop where
  distinct : t.paths.Nodup
  plain : ∀ path ∈ t.paths, IsPlainPath path
  free : ∀ path ∈ t.paths, ¬ IsReserved path
  landing : t.fallback = "/" ∨ t.fallback ∈ t.paths

theorem WellFormed.viewAt?_eq_some_iff {t : RouteTable} (h : t.WellFormed) {path : String} {view : View} :
    t.viewAt? path = some view ↔ ⟨path, view⟩ ∈ t.entries := by
  constructor
  · intro hv
    obtain ⟨e, he, rfl⟩ := Option.map_eq_some_iff.mp hv
    have hp := List.find?_some he
    rw [decide_eq_true_eq] at hp
    subst hp
    exact List.mem_of_find?_eq_some he
  · intro hm
    have hfind : t.entries.find? (·.path = path) = some ⟨path, view⟩ :=
      find?_of_nodup_map h.distinct hm
    rw [viewAt?, hfind, Option.map_some]

theorem WellFormed.viewAt?_reserved {t : RouteTable} (h : t.WellFormed) {path : String}
    (hr : IsReserved path) : t.viewAt? path = none := by
  rw [← Option.not_isSome_iff_eq_none, viewAt?_isSome_iff]
  exact fun hm => h.free path hm hr

theorem mount_eq_ok_iff {t t' : RouteTable} {path : String} {view : View} :
    t.mount path view = .ok t' ↔ (IsPlainPath path ∧ ¬ IsReserved path) ∧
      t' = { t with entries := put path view t.entries } := by
  rw [← checkPath_ok_iff, mount]
  cases h : checkPath path with
  | error e => simp [bind, Except.bind]
  | ok u => simp [bind, Except.bind, pure, Except.pure, eq_comm]

theorem redirectTo_eq_ok_iff {t t' : RouteTable} {target : String} :
    t.redirectTo target = .ok t' ↔ target.toList.head? = some '/' ∧
      (target = "/" ∨ target ∈ t.paths) ∧ t' = { t with fallback := target } := by
  have hlost : (target ≠ "/" ∧ (t.viewAt? target).isNone) ↔ ¬ (target = "/" ∨ target ∈ t.paths) := by
    simp [← viewAt?_isSome_iff]
  simp only [redirectTo, hlost]
  by_cases hs : target.toList.head? = some '/'
  · rw [if_neg (not_not_intro hs)]
    by_cases ht : target = "/" ∨ target ∈ t.paths
    · rw [if_neg (not_not_intro ht), Except.ok.injEq]
      exact ⟨fun h => ⟨hs, ht, h.symm⟩, fun h => h.2.2.symm⟩
    · simp [ht]
  · simp [hs]

/-- All that an edit can do. -/
theorem apply_cases (t : RouteTable) (e : Edit) :
    t.apply e = t ∨
      (∃ path view, e = .mount path view ∧ IsPlainPath path ∧ ¬ IsReserved path ∧
        t.apply e = { t with entries := put path view t.entries }) ∨
      (∃ target, e = .redirectTo target ∧ (target = "/" ∨ target ∈ t.paths) ∧
        t.apply e = { t with fallback := target }) := by
  rw [apply]
  cases h : t.edit e with
  | error _ => exact .inl rfl
  | ok t' =>
    cases e with
    | mount path view =>
      obtain ⟨⟨hp, hr⟩, rfl⟩ := mount_eq_ok_iff.mp h
      exact .inr (.inl ⟨path, view, rfl, hp, hr, rfl⟩)
    | redirectTo target =>
      obtain ⟨_, ht, rfl⟩ := redirectTo_eq_ok_iff.mp h
      exact .inr (.inr ⟨target, rfl, ht, rfl⟩)

theorem WellFormed.put {t : RouteTable} (h : t.WellFormed) {path : String} (view : View)
    (hp : IsPlainPath path) (hr : ¬ IsReserved path) :
    WellFormed { t with entries := put path view t.entries } := by
  have hpaths : paths { t with entries := RouteTable.put path view t.entries } =
      if path ∈ t.paths then t.paths else t.paths ++ [path] := map_path_put path view t.entries
  by_cases hmem : path ∈ t.paths
  · rw [if_pos hmem] at hpaths
    exact ⟨hpaths ▸ h.distinct, hpaths ▸ h.plain, hpaths ▸ h.free, hpaths ▸ h.landing⟩
  · rw [if_neg hmem] at hpaths
    constructor
    · rw [hpaths, List.nodup_append]
      refine ⟨h.distinct, List.pairwise_singleton _ _, fun a ha b hb => ?_⟩
      rw [List.mem_singleton.mp hb]
      exact fun e => hmem (e ▸ ha)
    · rw [hpaths]
      exact List.forall_mem_append.mpr ⟨h.plain, List.forall_mem_singleton.mpr hp⟩
    · rw [hpaths]
      exact List.forall_mem_append.mpr ⟨h.free, List.forall_mem_singleton.mpr hr⟩
    · rw [hpaths]
      exact h.landing.imp_right (List.mem_append_left _)

theorem WellFormed.apply {t : RouteTable} (h : t.WellFormed) (e : Edit) : (t.apply e).WellFormed := by
  rcases apply_cases t e with heq | ⟨path, view, _, hp, hr, heq⟩ | ⟨target, _, ht, heq⟩
  · rw [heq]
    exact h
  · rw [heq]
    exact h.put view hp hr
  · rw [heq]
    exact ⟨h.distinct, h.plain, h.free, ht⟩

/-! ## Runs -/

theorem applyAll_append (t : RouteTable) (es es' : List Edit) :
    t.applyAll (es ++ es') = (t.applyAll es).applyAll es' :=
  List.foldl_append

theorem WellFormed.applyAll {t : RouteTable} (h : t.WellFormed) (es : List Edit) :
    (t.applyAll es).WellFormed := by
  induction es generalizing t with
  | nil => exact h
  | cons e es ih => exact ih (h.apply e)

theorem empty_wellFormed : empty.WellFormed :=
  ⟨List.nodup_nil, nofun, nofun, .inl rfl⟩

theorem checkPath_of_mem_console {path : String} (h : path ∈ console.paths) :
    checkPath path = .ok () := by
  simp only [console, paths, List.map_cons, List.map_nil, List.mem_cons, List.not_mem_nil,
    or_false] at h
  rcases h with rfl | rfl | rfl | rfl | rfl <;> rfl

theorem console_wellFormed : console.WellFormed where
  distinct := by decide
  plain path h := ((checkPath_ok_iff path).mp (checkPath_of_mem_console h)).1
  free path h := ((checkPath_ok_iff path).mp (checkPath_of_mem_console h)).2
  landing := .inl rfl

/-- The tables that runs of edits lead to. -/
def Reachable (t : RouteTable) : Prop :=
  ∃ start ∈ [console, default, empty], ∃ es : List Edit, t = start.applyAll es

theorem Reachable.wellFormed {t : RouteTable} (h : t.Reachable) : t.WellFormed := by
  obtain ⟨start, hs, es, rfl⟩ := h
  apply WellFormed.applyAll
  rcases List.mem_cons.mp hs with rfl | hs
  · exact console_wellFormed
  · rcases List.mem_cons.mp hs with rfl | hs
    · exact console_wellFormed
    · rw [List.mem_singleton.mp hs]
      exact empty_wellFormed

theorem applyAll_mount {before es : List ViewRoute} {fallback : String}
    (hd : ((before ++ es).map (·.path)).Nodup)
    (hes : ∀ e ∈ es, IsPlainPath e.path ∧ ¬ IsReserved e.path) :
    applyAll ⟨before, fallback⟩ (es.map fun e => .mount e.path e.view) = ⟨before ++ es, fallback⟩ := by
  -- on what is still to be mounted: each entry goes to the end, since its path is new
  induction es generalizing before with
  | nil => simp [applyAll]
  | cons e es ih =>
    have hnew : e.path ∉ before.map (·.path) := by
      rw [List.map_append, List.map_cons, List.nodup_append] at hd
      exact fun hm => hd.2.2 _ hm _ (List.mem_cons_self ..) rfl
    have hmount : mount ⟨before, fallback⟩ e.path e.view = .ok ⟨before ++ [e], fallback⟩ := by
      rw [mount_eq_ok_iff, put_of_not_mem hnew]
      exact ⟨hes e (List.mem_cons_self ..), rfl⟩
    have happly : apply ⟨before, fallback⟩ (.mount e.path e.view) = ⟨before ++ [e], fallback⟩ := by
      rw [apply, edit, hmount]
    rw [List.append_cons] at hd
    rw [List.map_cons, applyAll, List.foldl_cons, happly, List.append_cons before e es]
    exact ih hd fun e' he' => hes e' (List.mem_cons_of_mem _ he')

theorem IsPlainPath.head? {path : String} (h : IsPlainPath path) : path.toList.head? = some '/' := by
  obtain ⟨_, _, _, hp⟩ := h
  rw [hp, List.head?_cons]

theorem WellFormed.reachable {t : RouteTable} (h : t.WellFormed) : t.Reachable := by
  refine ⟨empty, by simp, t.entries.map (fun e => .mount e.path e.view) ++ [.redirectTo t.fallback], ?_⟩
  have hbuilt : empty.applyAll (t.entries.map fun e => .mount e.path e.view) = ⟨t.entries, "/"⟩ :=
    applyAll_mount h.distinct fun e he =>
      have hm := List.mem_map_of_mem (f := (·.path)) he
      ⟨h.plain _ hm, h.free _ hm⟩
  have hstart : t.fallback.toList.head? = some '/' := by
    rcases h.landing with hf | hf
    · rw [hf]
      rfl
    · exact (h.plain _ hf).head?
  have hmove : redirectTo ⟨t.entries, "/"⟩ t.fallback = .ok t :=
    redirectTo_eq_ok_iff.mpr ⟨hstart, h.landing, rfl⟩
  have hlast : RouteTable.apply ⟨t.entries, "/"⟩ (.redirectTo t.fallback) = t := by
    rw [RouteTable.apply, edit, hmove]
  rw [applyAll_append, hbuilt]
  exact hlast.symm

/-- The tables that edits lead to are exactly those whose paths differ from each other, consist of
plain segments and leave the paths of the console free, and whose fallback is the home page or the
path of an entry. -/
theorem reachable_iff_paths_apart (t : RouteTable) :
    (∃ start ∈ [console, default, empty], ∃ es : List Edit, t = start.applyAll es) ↔
      (t.entries.map (·.path)).Nodup ∧
      (∀ e ∈ t.entries, IsPlainPath e.path) ∧
      (∀ e ∈ t.entries, e.path ≠ "/" ∧ e.path ≠ "/health" ∧ e.path ≠ "/api" ∧
        ¬ "/api/".toList <+: e.path.toList) ∧
      (t.fallback = "/" ∨ ∃ e ∈ t.entries, e.path = t.fallback) := by
  constructor
  · intro h
    have hw := Reachable.wellFormed h
    refine ⟨hw.distinct, List.forall_mem_map.mp hw.plain, fun e he => ?_, ?_⟩
    · simpa [IsReserved] using hw.free _ (List.mem_map_of_mem he)
    · exact hw.landing.imp_right List.mem_map.mp
  · rintro ⟨hd, hp, hf, hl⟩
    refine WellFormed.reachable ⟨hd, List.forall_mem_map.mpr hp, List.forall_mem_map.mpr fun e he => ?_, ?_⟩
    · simpa [IsReserved] using hf e he
    · exact hl.imp_right List.mem_map.mpr

end RouteTable

end ProxyConsole
