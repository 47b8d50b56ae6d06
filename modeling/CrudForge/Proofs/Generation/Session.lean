import CrudForge.Proofs.Generation.Commit
import CrudForge.Proofs.Generation.Standard

/-!
# Sessions

A session generates resource after resource in one project, whether the single calls succeed or not.
No call changes a stub, so every call renders what it would have rendered at the start. What the
calls told is what happened: the files afterwards are the ones that were written last, the route
file with the lines of the calls that succeeded, and all others as they were.

## Main definitions

* `Standard.Generates` — the effect of one call.
* `Standard.session` — the calls one after the other, with what each of them told.
* `Standard.Runs` — the effect of a session.
-/

namespace CrudForge.Standard

open FileSystem

/-! ## One call -/

/-- The effect of generating a resource. The outcome names the files that were written, and the
route is registered if the outcome is no failure. -/
structure Generates (root : Path) (call : Call) (fs : FileSystem)
    (told : Except Stop (Report × RouteSink)) (fs' : FileSystem) : Prop where
  undisturbed : Undisturbed fs fs' (stubWay.reverse ++ fs.target root)
  written : ∀ {kind : ArtifactKind} {p : Path}, (kind, p) ∈ writtenBy told →
    ∃ a, (call.generator root).renderKind fs kind = .ok a ∧ a.path = p ∧
      fs'.readFile p = .ok a.content.toUTF8
  registered : told.isOk = true → fs'.locate (routeFile root) = .ok (fs.target (routeFile root))
  route : fs'.fileAt (fs.target (routeFile root)) =
    if told.isOk then
      some ((fs.fileAt (fs.target (routeFile root))).getD .empty ++
        (call.generator root).routeLine.toUTF8)
    else fs.fileAt (fs.target (routeFile root))
  kept : ∀ {l : Location}, l ≠ fs.target (routeFile root) →
    (∀ x ∈ writtenBy told, l ≠ fs.target x.2) → fs'.fileAt l = fs.fileAt l

section Generate

variable {fs fs' : FileSystem} {root : Path} {call : Call} {artifacts done : List Artifact}
  {told : Except Stop (Report × RouteSink)}

/-- A commit changes the files behind the places of the call and the route file. -/
theorem undisturbed_of_commits (hroot : fs.isDirectory root = true)
    (hpath : ∀ a ∈ artifacts, a.path = (call.generator root).path a.kind)
    (h : Commits fs artifacts (routeFile root) (call.generator root).routeLine told fs' done) :
    Undisturbed fs fs' (stubWay.reverse ++ fs.target root) := by
  have htouched : ∀ names ∈ routePlace :: ArtifactKind.all.map (place call.resource),
      names ≠ [] ∧ Apart names stubWay := by
    refine List.forall_mem_cons.2 ⟨⟨routePlace_ne_nil, apart_routePlace⟩, fun names hnames => ?_⟩
    obtain ⟨kind, -, rfl⟩ := List.mem_map.1 hnames
    exact ⟨place_ne_nil _ _, apart_place _ _⟩
  have hplace (kind : ArtifactKind) :
      place call.resource kind ∈ routePlace :: ArtifactKind.all.map (place call.resource) :=
    List.mem_cons_of_mem _ (List.mem_map_of_mem (by cases kind <;> decide))
  refine undisturbed_of_apart h.grown hroot htouched (fun l hl => ?_) fun l hl => ?_
  · have hroute : l ≠ fs.target (routeFile root) := by
      rw [target_routeFile]
      exact hl _ List.mem_cons_self
    have hnone : lastContent? fs l done = none := by
      refine lastContent?_eq_none.2 fun a ha => ?_
      rw [hpath a (h.first.subset ha), target_path]
      exact hl _ (hplace a.kind)
    rw [h.fileAt_of_ne hroute, hnone, Option.none_or]
  · rcases h.directory hl with hl | ⟨a, ha, hway⟩ | hway
    · exact .inl hl
    · rw [hpath a ha, path_generator] at hway
      exact .inr ⟨_, hplace a.kind, hway⟩
    · rw [routeFile_eq] at hway
      exact .inr ⟨_, List.mem_cons_self, hway⟩

/-- A file that a commit wrote holds what is rendered for its kind. -/
theorem readFile_of_commits
    (hrendered : ∀ a ∈ artifacts, (call.generator root).renderKind fs a.kind = .ok a)
    (h : Commits fs artifacts (routeFile root) (call.generator root).routeLine told fs' done)
    {a : Artifact} (ha : a ∈ done) :
    ∃ b, (call.generator root).renderKind fs a.kind = .ok b ∧ b.path = a.path ∧
      fs'.readFile a.path = .ok b.content.toUTF8 := by
  have hpath : ∀ a ∈ done, a.path = (call.generator root).path a.kind :=
    fun a ha => path_of_renderKind (hrendered a (h.first.subset ha))
  have hsome : (lastContent? fs (fs.target a.path) done).isSome := by
    refine Option.isSome_iff_ne_none.2 fun hnone => ?_
    exact lastContent?_eq_none.1 hnone a ha rfl
  -- The last artifact for the location is of the same kind, as places of different kinds differ.
  obtain ⟨b, hb, htarget, hcontent⟩ := exists_of_lastContent?_isSome hsome
  have hroute : fs.target a.path ≠ fs.target (routeFile root) := by
    rw [hpath a ha]
    exact target_path_ne_routeFile
  rw [hpath a ha, hpath b hb] at htarget
  obtain ⟨hsame, hkind⟩ := path_eq_of_target htarget
  refine ⟨b, ?_, ?_, readFile_eq_ok.2 ⟨_, h.located a ha, ?_⟩⟩
  · rw [hkind]
    exact hrendered b (h.first.subset hb)
  · rw [hpath a ha, hpath b hb, hsame]
  · rw [h.fileAt_of_ne hroute, hcontent, Option.some_or]

theorem generates_of_commits (hroot : fs.isDirectory root = true)
    (hrender : (call.generator root).render fs = .ok artifacts)
    (h : Commits fs artifacts (routeFile root) (call.generator root).routeLine told fs' done) :
    Generates root call fs told fs' := by
  have hrendered := renderKind_of_mem hrender
  have hpath : ∀ a ∈ artifacts, a.path = (call.generator root).path a.kind :=
    fun a ha => path_of_renderKind (hrendered a ha)
  have hnoRoute : lastContent? fs (fs.target (routeFile root)) done = none := by
    refine lastContent?_eq_none.2 fun a ha => ?_
    rw [hpath a (h.first.subset ha)]
    exact target_path_ne_routeFile.symm
  refine ⟨undisturbed_of_commits hroot hpath h, ?_, fun hok => (h.succeeded hok).2.1, ?_, ?_⟩
  · intro kind p hp
    rw [h.written, listed, List.mem_map] at hp
    obtain ⟨a, ha, heq⟩ := hp
    obtain ⟨rfl, rfl⟩ := Prod.mk.inj heq
    exact readFile_of_commits hrendered h ha
  · cases hok : told.isOk with
    | true => simp [(h.succeeded hok).2.2, hnoRoute]
    | false => simp [h.failed hok, hnoRoute]
  · intro l hl hother
    have hnone : lastContent? fs l done = none := by
      refine lastContent?_eq_none.2 fun a ha => hother (a.kind, a.path) ?_
      rw [h.written]
      exact List.mem_map_of_mem ha
    rw [h.fileAt_of_ne hl, hnone, Option.none_or]

theorem generates_generate (hroot : fs.isDirectory root = true)
    (h : (call.generator root).generate fs (.file (routeFile root)) = (told, fs')) :
    Generates root call fs told fs' := by
  unfold Generator.generate at h
  split at h
  · obtain ⟨rfl, rfl⟩ := Prod.mk.inj h
    exact ⟨.refl _ _, by simp [writtenBy], nofun, rfl, fun _ _ => rfl⟩
  · rename_i artifacts hrender
    obtain ⟨done, hcommits⟩ :=
      commits_commit (call.generator root) fs artifacts (routeFile root)
    rw [h] at hcommits
    exact generates_of_commits hroot hrender hcommits

end Generate

/-! ## Many calls -/

/-- A call of a session: what was asked, what it started from, and what it told. -/
structure Turn where
  call : Call
  start : FileSystem
  told : Except Stop (Report × RouteSink)

/-- The calls one after the other. -/
def session (root : Path) : FileSystem → List Call → List Turn × FileSystem
  | fs, [] => ([], fs)
  | fs, call :: calls =>
    match (call.generator root).generate fs (.file (routeFile root)) with
    | (told, fs') =>
      match session root fs' calls with
      | (turns, fs'') => ({ call, start := fs, told } :: turns, fs'')

/-- The route lines of the calls that succeeded. -/
def registered (root : Path) (turns : List Turn) : List String :=
  (turns.filter (·.told.isOk)).map fun turn => (turn.call.generator root).routeLine

/-- All files that the calls named as written. -/
def written (turns : List Turn) : List (ArtifactKind × Path) :=
  turns.flatMap fun turn => writtenBy turn.told

/-- The effect of a session. -/
structure Runs (root : Path) (fs : FileSystem) (turns : List Turn) (fs' : FileSystem) : Prop where
  undisturbed : Undisturbed fs fs' (stubWay.reverse ++ fs.target root)
  starts : ∀ turn ∈ turns, Undisturbed fs turn.start (stubWay.reverse ++ fs.target root)
  named : ∀ x ∈ written turns, ∃ call : Call, x.2 = (call.generator root).path x.1
  last : ∀ {before after : List Turn} {turn : Turn}, turns = before ++ turn :: after →
    ∀ {kind : ArtifactKind} {p : Path}, (kind, p) ∈ writtenBy turn.told →
      (∀ later, (later, p) ∉ written after) →
        ∃ a, (turn.call.generator root).renderKind fs kind = .ok a ∧ a.path = p ∧
          fs'.readFile p = .ok a.content.toUTF8
  located : registered root turns ≠ [] →
    fs'.locate (routeFile root) = .ok (fs.target (routeFile root))
  route : fs'.fileAt (fs.target (routeFile root)) =
    if registered root turns = [] then fs.fileAt (fs.target (routeFile root))
    else some ((fs.fileAt (fs.target (routeFile root))).getD .empty ++
      (Text.concat (registered root turns)).toUTF8)
  kept : ∀ {l : Location}, l ≠ fs.target (routeFile root) →
    (∀ x ∈ written turns, l ≠ fs.target x.2) → fs'.fileAt l = fs.fileAt l

section Run

variable {root : Path} {fs fs' fs'' : FileSystem} {call : Call} {turns : List Turn}
  {told : Except Stop (Report × RouteSink)}

theorem registered_cons (turn : Turn) :
    registered root (turn :: turns) =
      if turn.told.isOk then (turn.call.generator root).routeLine :: registered root turns
      else registered root turns := by
  cases hok : turn.told.isOk <;> simp [registered, hok]

theorem runs_nil (root : Path) (fs : FileSystem) : Runs root fs [] fs where
  undisturbed := .refl _ _
  starts := by simp
  named := by simp [written]
  last h := by simp at h
  located h := absurd rfl h
  route := rfl
  kept _ _ := rfl

/-- What a call names as written is a path of the call. -/
theorem Generates.named (h : Generates root call fs told fs') {kind : ArtifactKind} {p : Path}
    (hp : (kind, p) ∈ writtenBy told) : p = (call.generator root).path kind := by
  obtain ⟨a, hrender, rfl, -⟩ := h.written hp
  exact (renderKind_eq_ok hrender).2

/-- What a call wrote stays, unless a later call names it as written. -/
theorem Runs.readFile_eq (h : Runs root fs' turns fs'') {kind : ArtifactKind} {p : Path}
    {content : ByteArray} (hp : p = (call.generator root).path kind)
    (hread : fs'.readFile p = .ok content) (hlater : ∀ later, (later, p) ∉ written turns) :
    fs''.readFile p = .ok content := by
  obtain ⟨l, hlocate, hfile⟩ := readFile_eq_ok.1 hread
  obtain rfl := eq_target_of_locate hlocate
  have hroute : fs'.target p ≠ fs'.target (routeFile root) := hp ▸ target_path_ne_routeFile
  have hother : ∀ x ∈ written turns, fs'.target p ≠ fs'.target x.2 := by
    intro x hx htarget
    obtain ⟨call', hx'⟩ := h.named x hx
    rw [hp, hx'] at htarget
    obtain ⟨hsame, -⟩ := path_eq_of_target htarget
    rw [← hp, ← hx'] at hsame
    exact hlater x.1 (hsame ▸ hx)
  refine readFile_eq_ok.2 ⟨_, h.undisturbed.grown.locate hlocate, ?_⟩
  rw [h.kept hroute hother, hfile]

/-- A call in front of a session makes a longer one. -/
theorem runs_cons (hroot : fs.isDirectory root = true)
    (hcall : Generates root call fs told fs') (h : Runs root fs' turns fs'') :
    Runs root fs ({ call, start := fs, told } :: turns) fs'' := by
  have htarget (p : Path) : fs'.target p = fs.target p := hcall.undisturbed.grown.target p
  have hundisturbed := h.undisturbed
  have hstarts := h.starts
  have hroute := h.route
  have hlocated := h.located
  rw [htarget] at hundisturbed hroute hlocated
  simp only [htarget root] at hstarts
  refine ⟨hcall.undisturbed.trans hundisturbed, ?_, ?_, ?_, ?_, ?_, ?_⟩
  · exact List.forall_mem_cons.2
      ⟨.refl _ _, fun turn hturn => hcall.undisturbed.trans (hstarts turn hturn)⟩
  · intro x hx
    rcases List.mem_append.1 hx with hx | hx
    · exact ⟨call, hcall.named hx⟩
    · exact h.named x hx
  · intro before after turn hturns kind p hp hlater
    cases before with
    | nil =>
      obtain ⟨rfl, rfl⟩ := List.cons.inj hturns
      obtain ⟨a, hrender, ha, hread⟩ := hcall.written hp
      exact ⟨a, hrender, ha, h.readFile_eq (hcall.named hp) hread hlater⟩
    | cons first before =>
      obtain ⟨-, hrest⟩ := List.cons.inj hturns
      obtain ⟨a, hrender, ha, hread⟩ := h.last hrest hp hlater
      rw [renderKind_eq turn.call hroot hcall.undisturbed] at hrender
      exact ⟨a, hrender, ha, hread⟩
  · intro hne
    by_cases hrest : registered root turns = []
    · have hok : told.isOk = true := by
        cases hok : told.isOk with
        | true => rfl
        | false => exact absurd (by simpa [registered_cons, hok] using hrest) hne
      exact hundisturbed.grown.locate (hcall.registered hok)
    · exact hlocated hrest
  · rw [hroute, hcall.route, registered_cons]
    cases hok : told.isOk with
    | false => simp
    | true =>
      by_cases hrest : registered root turns = []
      · simp [hrest, Text.concat]
      · simp [hrest, Text.concat, String.toByteArray_append, ByteArray.append_assoc]
  · intro l hl hother
    have hrest : ∀ x ∈ written turns, l ≠ fs'.target x.2 := by
      intro x hx
      rw [htarget]
      exact hother x (List.mem_append_right _ hx)
    rw [h.kept (by rwa [htarget]) hrest]
    exact hcall.kept hl fun x hx => hother x (List.mem_append_left _ hx)

theorem runs_session {calls : List Call} (hroot : fs.isDirectory root = true)
    (h : session root fs calls = (turns, fs')) : Runs root fs turns fs' := by
  induction calls generalizing fs turns with
  | nil =>
    obtain ⟨rfl, rfl⟩ := Prod.mk.inj h
    exact runs_nil root fs
  | cons call calls ih =>
    unfold session at h
    split at h
    rename_i hgenerate
    have hcall := generates_generate hroot hgenerate
    split at h
    rename_i hrest
    obtain ⟨rfl, rfl⟩ := Prod.mk.inj h
    exact runs_cons hroot hcall (ih (hcall.undisturbed.grown.isDirectory hroot) hrest)

theorem calls_session {calls : List Call} (h : session root fs calls = (turns, fs')) :
    turns.map (·.call) = calls := by
  induction calls generalizing fs turns with
  | nil =>
    obtain ⟨rfl, rfl⟩ := Prod.mk.inj h
    rfl
  | cons call calls ih =>
    unfold session at h
    split at h
    split at h
    rename_i hrest
    obtain ⟨rfl, rfl⟩ := Prod.mk.inj h
    exact congrArg (call :: ·) (ih hrest)

/-- Route lines are registered in the order of the calls that succeeded, a written file is as its
last call renders it from the first stubs, and all else is as it was. -/
theorem session_leaves {calls : List Call} (hroot : fs.isDirectory root = true)
    (h : session root fs calls = (turns, fs')) :
    turns.map (·.call) = calls ∧
    (∀ turn ∈ turns,
      (turn.call.generator root).render turn.start = (turn.call.generator root).render fs) ∧
    (fs'.fileAt (fs.target (routeFile root)) =
      if registered root turns = [] then fs.fileAt (fs.target (routeFile root))
      else some ((fs.fileAt (fs.target (routeFile root))).getD .empty ++
        (Text.concat (registered root turns)).toUTF8)) ∧
    (registered root turns ≠ [] → fs'.readFile (routeFile root) =
      .ok ((fs.fileAt (fs.target (routeFile root))).getD .empty ++
        (Text.concat (registered root turns)).toUTF8)) ∧
    (∀ before turn after, turns = before ++ turn :: after →
      ∀ kind p, (kind, p) ∈ writtenBy turn.told → (∀ later, (later, p) ∉ written after) →
        ∃ a, (turn.call.generator root).renderKind turn.start kind = .ok a ∧
          (turn.call.generator root).renderKind fs kind = .ok a ∧ a.path = p ∧
          fs'.readFile p = .ok a.content.toUTF8) ∧
    ∀ l, l ≠ fs.target (routeFile root) → (∀ x ∈ written turns, l ≠ fs.target x.2) →
      fs'.fileAt l = fs.fileAt l := by
  have hruns := runs_session hroot h
  refine ⟨calls_session h, ?_, hruns.route, ?_, ?_, fun l => hruns.kept⟩
  · intro turn hturn
    exact render_eq turn.call hroot (hruns.starts turn hturn)
  · intro hne
    have hroute := hruns.route
    rw [if_neg hne] at hroute
    exact readFile_eq_ok.2 ⟨_, hruns.located hne, hroute⟩
  · intro before turn after hturns kind p hp hlater
    obtain ⟨a, hrender, ha, hread⟩ := hruns.last hturns hp hlater
    have hturn : turn ∈ turns := by simp [hturns]
    refine ⟨a, ?_, hrender, ha, hread⟩
    rw [renderKind_eq turn.call hroot (hruns.starts turn hturn), hrender]

end Run

/-- A call for a resource without fields. -/
def Call.plain (resource : ResourceName) : Call :=
  { resource, fields := .empty, fallback := false }

/-- A project in which a directory is in the way of the controller of `Tag`. -/
def obstructed : FileSystem :=
  withStubs (FileSystem.empty.createDirectories ⟨"app/Http/Controllers/TagController.php"⟩).2

/-- The call that fails half way leaves no route line. -/
theorem session_leaves_obstructed :
    obstructed.isDirectory ⟨"/"⟩ = true ∧
      (session ⟨"/"⟩ obstructed
        [.plain ⟨"Tag", by decide⟩, .plain ⟨"Post", by decide⟩]).2.readFile
          (routeFile ⟨"/"⟩) = .ok (routeLine "Post").toUTF8 := by
  have hroot : obstructed.isDirectory ⟨"/"⟩ = true := by decide +kernel
  have hnone : obstructed.fileAt (obstructed.target (routeFile ⟨"/"⟩)) = none := by decide +kernel
  have hlines : registered ⟨"/"⟩ (session ⟨"/"⟩ obstructed
      [.plain ⟨"Tag", by decide⟩, .plain ⟨"Post", by decide⟩]).1 = [routeLine "Post"] := by
    decide +kernel
  have hsession := Prod.eta (p := session ⟨"/"⟩ obstructed
    [.plain ⟨"Tag", by decide⟩, .plain ⟨"Post", by decide⟩])
  obtain ⟨-, -, -, hroute, -, -⟩ := session_leaves hroot hsession.symm
  rw [hlines, hnone] at hroute
  refine ⟨hroot, (hroute (List.cons_ne_nil _ _)).trans ?_⟩
  simp [Text.concat]

end CrudForge.Standard
