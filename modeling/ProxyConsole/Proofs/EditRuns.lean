import ProxyConsole.Proofs.RouteTable

/-!
# Runs of edits

After a run of edits a path has the view that was mounted there last, paths stand in the order in
which they were first mounted, behind those that the table had, and unknown paths are sent to the
target that was set last. Edits that are refused count for nothing. A path is refused for the first
of three reasons that applies.
-/

namespace ProxyConsole

section
variable {α β : Type}

theorem eraseDups_of_nodup [BEq α] [LawfulBEq α] {l : List α} (h : l.Nodup) : l.eraseDups = l := by
  induction l with
  | nil => simp
  | cons a l ih =>
    rw [List.nodup_cons] at h
    have hfilter : l.filter (fun b => !b == a) = l := by
      rw [List.filter_eq_self]
      intro b hb
      simp only [Bool.not_eq_true', beq_eq_false_iff_ne]
      exact fun e => h.1 (e ▸ hb)
    rw [List.eraseDups_cons, hfilter, ih h.2]

theorem getLast?_filterMap_cons (f : α → Option β) (a : α) (l : List α) :
    ((a :: l).filterMap f).getLast? = (l.filterMap f).getLast?.or (f a) := by
  rw [List.filterMap_cons]
  cases f a with
  | none => simp
  | some b => cases h : (l.filterMap f).getLast? <;> simp [List.getLast?_cons, h]

end

namespace RouteTable

/-! ## Paths that are refused -/

/-- A text between two slashes of a path or behind its last one. The path begins with a slash. -/
def HasSegment (path : String) (s : List Char) : Prop :=
  ∃ segments : List (List Char), (∀ part ∈ segments, '/' ∉ part) ∧ s ∈ segments ∧
    path.toList = '/' :: ['/'].intercalate segments

/-- Why a view cannot be mounted at a path. The path of the home page is one empty segment, which is
not held against it. -/
inductive RefusesPath (path : String) : RouteError → Prop
  | missingLeadingSlash : path.toList.head? ≠ some '/' →
      RefusesPath path (.missingLeadingSlash path)
  | invalidSegment {s : List Char} : path ≠ "/" → HasSegment path s → ¬ IsPlainSegment s →
      RefusesPath path (.invalidSegment path)
  | reserved : path.toList.head? = some '/' →
      (path ≠ "/" → ∀ s, HasSegment path s → IsPlainSegment s) → IsReserved path →
      RefusesPath path (.reserved path)

theorem hasSegment_iff {path : String} {rest s : List Char} (h : path.toList = '/' :: rest) :
    HasSegment path s ↔ s ∈ Text.split '/' rest := by
  constructor
  · intro hs
    obtain ⟨segments, hparts, hmem, hpath⟩ := hs
    rw [h, List.cons_inj_right] at hpath
    rwa [Text.split_eq_iff.mpr ⟨List.ne_nil_of_mem hmem, hparts, hpath⟩]
  · intro hs
    refine ⟨_, fun part => Text.not_mem_of_mem_split, hs, ?_⟩
    rw [h, Text.intercalate_split]

theorem checkPath_of_slash {path : String} {rest : List Char} (h : path.toList = '/' :: rest) :
    checkPath path =
      if rest ≠ [] ∧ (Text.split '/' rest).all isLiteral = false then .error (.invalidSegment path)
      else if isReserved path then .error (.reserved path)
      else .ok () := by
  unfold checkPath
  simp only [h]

theorem invalid_iff {path : String} {rest : List Char} (h : path.toList = '/' :: rest) :
    (rest ≠ [] ∧ (Text.split '/' rest).all isLiteral = false) ↔
      path ≠ "/" ∧ ∃ s, HasSegment path s ∧ ¬ IsPlainSegment s := by
  have hhome : rest = [] ↔ path = "/" := by simp [← String.toList_inj, h]
  rw [Ne, hhome, List.all_eq_false]
  apply and_congr_right
  intro _
  apply exists_congr
  intro s
  rw [hasSegment_iff h]
  exact and_congr_right fun hs => not_congr (isLiteral_iff (Text.not_mem_of_mem_split hs))

theorem RefusesPath.checkPath_eq {path : String} {e : RouteError} (h : RefusesPath path e) :
    checkPath path = .error e := by
  cases h with
  | missingLeadingSlash hhead =>
    unfold checkPath
    split
    · rename_i hp
      simp [hp] at hhead
    · rfl
  | invalidSegment hne hs hplain =>
    have hcons := hs
    obtain ⟨_, _, _, hp⟩ := hcons
    rw [checkPath_of_slash hp, if_pos]
    exact (invalid_iff hp).mpr ⟨hne, _, hs, hplain⟩
  | reserved hhead hplain hres =>
    obtain ⟨rest, hp⟩ := List.head?_eq_some_iff.mp hhead
    rw [checkPath_of_slash hp, if_neg, if_pos ((isReserved_iff path).mpr hres)]
    rw [invalid_iff hp]
    intro hbad
    obtain ⟨hne, s, hs, hbad⟩ := hbad
    exact hbad (hplain hne s hs)

/-- The three reasons are looked at in turn, and a path that none of them stops is accepted. -/
theorem checkPath_cases (path : String) : checkPath path = .ok () ∨ ∃ e, RefusesPath path e := by
  by_cases hhead : path.toList.head? = some '/'
  · obtain ⟨rest, hp⟩ := List.head?_eq_some_iff.mp hhead
    by_cases hbad : path ≠ "/" ∧ ∃ s, HasSegment path s ∧ ¬ IsPlainSegment s
    · obtain ⟨hne, s, hs, hplain⟩ := hbad
      exact .inr ⟨_, .invalidSegment hne hs hplain⟩
    · by_cases hres : IsReserved path
      · refine .inr ⟨_, .reserved hhead (fun hne s hs => ?_) hres⟩
        by_contra hplain
        exact hbad ⟨hne, s, hs, hplain⟩
      · left
        rw [checkPath_of_slash hp, if_neg, if_neg]
        · rwa [isReserved_iff]
        · rwa [invalid_iff hp]
  · exact .inr ⟨_, .missingLeadingSlash hhead⟩

theorem checkPath_eq_error_iff {path : String} {e : RouteError} :
    checkPath path = .error e ↔ RefusesPath path e := by
  constructor
  · intro h
    rcases checkPath_cases path with hok | ⟨e', he'⟩
    · rw [hok] at h
      cases h
    · rw [he'.checkPath_eq, Except.error.injEq] at h
      rwa [← h]
  · exact RefusesPath.checkPath_eq

theorem mount_eq_error_iff {t : RouteTable} {path : String} {view : View} {e : RouteError} :
    t.mount path view = .error e ↔ RefusesPath path e := by
  rw [← checkPath_eq_error_iff, mount]
  cases checkPath path <;> simp [bind, Except.bind, pure, Except.pure]

/-! ## Edits that are heeded -/

/-- The edits of a run that are not refused, each by the table that it meets. -/
def accepted (t : RouteTable) : List Edit → List Edit
  | [] => []
  | e :: es =>
    match t.edit e with
    | .ok t' => e :: t'.accepted es
    | .error _ => t.accepted es

namespace Edit

def viewAt? (path : String) : Edit → Option View
  | mount p view => if p = path then some view else none
  | redirectTo _ => none

def path? : Edit → Option String
  | mount path _ => some path
  | redirectTo _ => none

def target? : Edit → Option String
  | mount _ _ => none
  | redirectTo target => some target

end Edit

/-- What becomes of a table by edits that are heeded. -/
structure RunsTo (t : RouteTable) (es : List Edit) (t' : RouteTable) : Prop where
  paths : t'.paths = (t.paths ++ es.filterMap Edit.path?).eraseDups
  views : ∀ path view, ⟨path, view⟩ ∈ t'.entries ↔
    (es.filterMap (Edit.viewAt? path)).getLast?.or (t.viewAt? path) = some view
  fallback : t'.fallback = (es.filterMap Edit.target?).getLast?.getD t.fallback

theorem viewAt?_put (t : RouteTable) (path : String) (view : View) (p : String) :
    viewAt? { t with entries := put path view t.entries } p =
      if path = p then some view else t.viewAt? p := by
  unfold viewAt?
  induction t.entries with
  | nil => by_cases h : path = p <;> simp [put, h]
  | cons e es ih =>
    by_cases he : e.path = path
    · by_cases h : path = p <;> simp [put, he, h]
    · by_cases hp : e.path = p
      · have h : path ≠ p := fun h => he (hp.trans h.symm)
        rw [put, if_neg he, if_neg h]
        simp [hp]
      · rw [put, if_neg he, List.find?_cons_of_neg (by simpa using hp), ih,
          List.find?_cons_of_neg (by simpa using hp)]

/-- What one edit does to paths, views and fallback, if it is heeded. -/
theorem edit_eq_ok {t t' : RouteTable} {e : Edit} (h : t.edit e = .ok t') :
    (∀ more, (t'.paths ++ more).eraseDups = (t.paths ++ (e.path?.toList ++ more)).eraseDups) ∧
      (∀ path, t'.viewAt? path = (e.viewAt? path).or (t.viewAt? path)) ∧
      t'.fallback = e.target?.getD t.fallback := by
  cases e with
  | mount path view =>
    obtain ⟨_, rfl⟩ := mount_eq_ok_iff.mp h
    refine ⟨fun more => ?_, fun p => ?_, rfl⟩
    · have hpaths : RouteTable.paths { t with entries := put path view t.entries } =
          if path ∈ t.paths then t.paths else t.paths ++ [path] := map_path_put path view t.entries
      rw [hpaths]
      by_cases hmem : path ∈ t.paths
      · -- a path that is there already adds nothing behind the paths of the table
        have hremove : (path :: more).removeAll t.paths = more.removeAll t.paths := by
          simp [List.removeAll, hmem]
        rw [if_pos hmem, List.eraseDups_append, List.eraseDups_append]
        simp only [Edit.path?, Option.toList_some, List.singleton_append, hremove]
      · simp [hmem, Edit.path?]
    · rw [viewAt?_put, Edit.viewAt?]
      by_cases hp : path = p <;> simp [hp]
  | redirectTo target =>
    obtain ⟨_, _, rfl⟩ := redirectTo_eq_ok_iff.mp h
    exact ⟨fun _ => rfl, fun _ => rfl, rfl⟩

theorem WellFormed.runsTo_nil {t : RouteTable} (h : t.WellFormed) : RunsTo t [] t := by
  constructor
  case paths => rw [List.filterMap_nil, List.append_nil, eraseDups_of_nodup h.distinct]
  case views => exact fun path view => h.viewAt?_eq_some_iff.symm
  case fallback => rfl

theorem RunsTo.cons {t t₁ t' : RouteTable} {e : Edit} {es : List Edit} (he : t.edit e = .ok t₁)
    (h : RunsTo t₁ es t') : RunsTo t (e :: es) t' := by
  obtain ⟨hpaths, hviews, hfallback⟩ := edit_eq_ok he
  constructor
  case paths =>
    have hcons : (e :: es).filterMap Edit.path? = e.path?.toList ++ es.filterMap Edit.path? := by
      rw [List.filterMap_cons]
      cases e.path? <;> rfl
    rw [h.paths, hpaths, hcons]
  case views =>
    intro path view
    rw [h.views, hviews, getLast?_filterMap_cons, Option.or_assoc]
  case fallback => rw [h.fallback, hfallback, getLast?_filterMap_cons, Option.getD_or]

theorem WellFormed.runsTo {t : RouteTable} (h : t.WellFormed) (es : List Edit) :
    RunsTo t (t.accepted es) (t.applyAll es) := by
  -- on the edits that are left: one that is refused is met by the table that it leaves behind
  induction es generalizing t with
  | nil => exact h.runsTo_nil
  | cons e es ih =>
    have happly := h.apply e
    rw [accepted, RouteTable.applyAll, List.foldl_cons]
    unfold RouteTable.apply at happly ⊢
    cases he : t.edit e with
    | error _ => exact ih h
    | ok t₁ =>
      rw [he] at happly
      exact .cons he (ih happly)

theorem WellFormed.paths_kept {t : RouteTable} (h : t.WellFormed) (es : List Edit) :
    t.paths <+: (t.applyAll es).paths := by
  rw [(h.runsTo es).paths, List.eraseDups_append, eraseDups_of_nodup h.distinct]
  exact List.prefix_append _ _

/-- A table keeps the last view that a run mounts at a path, its paths in the order in which they
were first mounted, and the last target; no edit takes a path away. -/
theorem runs_keep_last_writes {t : RouteTable} (ht : t.Reachable) :
    (∀ path view e, t.mount path view = .error e ↔ RefusesPath path e) ∧
      (∀ path view t', t.mount path view = .ok t' → t'.fallback = t.fallback) ∧
      (∀ target t', t.redirectTo target = .ok t' → t'.entries = t.entries) ∧
      ∀ es, RunsTo t (t.accepted es) (t.applyAll es) ∧
        ∀ more, (t.applyAll es).paths <+: (t.applyAll (es ++ more)).paths := by
  have h := ht.wellFormed
  refine ⟨fun path view e => mount_eq_error_iff, ?_, ?_, fun es => ⟨h.runsTo es, fun more => ?_⟩⟩
  · intro path view t' hmount
    obtain ⟨_, rfl⟩ := mount_eq_ok_iff.mp hmount
    rfl
  · intro target t' hmove
    obtain ⟨_, _, rfl⟩ := redirectTo_eq_ok_iff.mp hmove
    rfl
  · rw [applyAll_append]
    exact (h.applyAll es).paths_kept more

/-- A path mounted twice, a standard path given to another view, and three edits that are refused. -/
theorem runs_keep_last_writes_between_refusals :
    let t := console.applyAll [.mount "/a" .login]
    let es : List Edit := [.mount "/b" .pricing, .redirectTo "/c", .mount "/user" .admin,
      .mount "/api/\x7bid\x7d" .login, .redirectTo "/b", .mount "/api/" .login, .mount "/b" .manager]
    t.Reachable ∧
      t.accepted es = [.mount "/b" .pricing, .mount "/user" .admin, .redirectTo "/b",
        .mount "/b" .manager] ∧
      RunsTo t (t.accepted es) (t.applyAll es) := by
  intro t es
  have ht : t.Reachable := ⟨console, List.mem_cons_self .., _, rfl⟩
  exact ⟨ht, by decide, ((runs_keep_last_writes ht).2.2.2 es).1⟩

end RouteTable

end ProxyConsole
