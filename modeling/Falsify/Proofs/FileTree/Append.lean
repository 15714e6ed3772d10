import Falsify.FileTree

/-!
# Appending to a file

What appending leaves behind.  Making the folders on the way to a file and opening it change the content of no
file, whether they work or not; only writing does, and it adds to the end of one file.  Folders that were made
on the way stay, which is why a path that could be appended to once can be appended to again.

## Key results

- `read?_makeParents`, `read?_openFile_of_some`: all that comes before writing changes no file.
- `append_fst_eq_ok_iff`: when appending works; `append_eq_of_ok`: what it leaves behind then.
- `read?_append_of_ok`: appending changes one file, and adds to its end.
- `append_fst_append`: after an append that works, every other to the same path works too.
-/

namespace Falsify.FileTree

variable {t u v : FileTree} {path : String}

/-! ## Entries -/

theorem entry?_insert (t : FileTree) (p q : Place) (e : FileEntry) :
    FileTree.entry? (t.insert p e) q = if q = p then some e else t.entry? q := rfl

/-- Of two entries that are set at one place, the second one stays. -/
theorem insert_insert (t : FileTree) (p : Place) (e e' : FileEntry) :
    (t.insert p e).insert p e' = t.insert p e' := by
  have hentries : (fun q => if q = p then some e' else FileTree.entry? (t.insert p e) q) =
      fun q => if q = p then some e' else t.entry? q := by
    funext q
    rw [entry?_insert]
    split <;> rfl
  unfold insert at hentries ⊢
  rw [hentries]

/-- Setting the entry that is there already changes nothing. -/
theorem insert_of_entry? {p : Place} {e : FileEntry} (h : t.entry? p = some e) : t.insert p e = t := by
  have hentries : (fun q => if q = p then some e else t.entry? q) = t.entry? := by
    funext q
    split
    · rename_i hq
      rw [hq, h]
    · rfl
  unfold insert
  rw [hentries]

/-- A content is read where there is a file with it. -/
theorem read?_eq_some_iff {p : Place} {content : String} :
    t.read? p = some content ↔ t.entry? p = some (.file content) := by
  unfold read?
  split
  · rename_i h
    simp [h]
  · rename_i h
    exact ⟨nofun, fun hfile => absurd hfile (h content)⟩

/-- An access that is not refused has what comes of it. -/
theorem unlessRefused_eq_ok_iff {α : Type} {access : Access} {p : Place} {a b : α} :
    t.unlessRefused access p a = .ok b ↔ t.refusal? access p = none ∧ a = b := by
  unfold unlessRefused
  split
  · rename_i h
    simp [h]
  · rename_i h
    simp [h]

/-! ## Folders -/

/-- What is a folder in the one tree is a folder in the other, and the same accesses are refused. -/
structure KeepsFolders (t u : FileTree) : Prop where
  folder : ∀ p, t.entry? p = some .folder → u.entry? p = some .folder
  refusal?_eq : u.refusal? = t.refusal?

namespace KeepsFolders

theorem refl (t : FileTree) : t.KeepsFolders t := ⟨fun _ h => h, rfl⟩

theorem trans (h : t.KeepsFolders u) (h' : u.KeepsFolders v) : t.KeepsFolders v :=
  ⟨fun p hp => h'.folder p (h.folder p hp), h'.refusal?_eq.trans h.refusal?_eq⟩

/-- A new entry does no harm where there was no folder. -/
theorem insert {p : Place} (h : t.entry? p ≠ some .folder) (e : FileEntry) : t.KeepsFolders (t.insert p e) where
  folder q hq := by
    rw [entry?_insert, if_neg]
    · exact hq
    · rintro rfl
      exact h hq
  refusal?_eq := rfl

end KeepsFolders

/-- The folder that one comes to is there, and so are all others that were there before. -/
theorem comeTo_eq_ok {p : Place} {last : Bool} (h : t.comeTo p last = .ok u) :
    u.entry? p = some .folder ∧ t.KeepsFolders u := by
  unfold comeTo at h
  split at h
  · rename_i hfolder
    cases h
    exact ⟨hfolder, .refl t⟩
  · cases h
  · rename_i hnone
    obtain ⟨-, rfl⟩ := unlessRefused_eq_ok_iff.1 h
    refine ⟨by rw [entry?_insert, if_pos rfl], .insert ?_ _⟩
    rw [hnone]
    exact nofun

/-- Nothing is made of a folder that is there. -/
theorem comeTo_of_folder {p : Place} (h : t.entry? p = some .folder) (last : Bool) : t.comeTo p last = .ok t := by
  rw [comeTo, h]

/-- Making folders takes none away, however far it comes. -/
theorem keepsFolders_makeFolders (t : FileTree) (here : Place) (names : List String) :
    t.KeepsFolders (t.makeFolders here names).2 := by
  induction names generalizing t here with
  | nil => exact .refl t
  | cons name names ih =>
    unfold makeFolders
    split
    · exact ih t _
    · split
      · exact .refl t
      · rename_i hfolder
        exact (comeTo_eq_ok hfolder).2.trans (ih _ _)

/-- Where folders have been made, making them again changes nothing. -/
theorem makeFolders_of_makeFolders {here there : Place} {names : List String}
    (h : t.makeFolders here names = (.ok there, u)) (hv : u.KeepsFolders v) :
    v.makeFolders here names = (.ok there, v) := by
  induction names generalizing t here with
  | nil =>
    cases h
    rfl
  | cons name names ih =>
    unfold makeFolders at h ⊢
    split at h
    · rename_i hdots
      rw [if_pos hdots]
      exact ih h
    · rename_i hdots
      rw [if_neg hdots]
      split at h
      · cases h
      · rename_i w hfolder
        -- The folder that was come to the first time is there the second time, made or not.
        have hkept : w.KeepsFolders u := by
          have hmade := keepsFolders_makeFolders w (here ++ [name]) names
          rwa [h] at hmade
        have hthere := hv.folder _ (hkept.folder _ (comeTo_eq_ok hfolder).1)
        rw [comeTo_of_folder hthere]
        exact ih h

/-- Making the folders on the way to a file leaves every file as it was, however far it comes. -/
theorem read?_makeParents (t : FileTree) (path : String) (p : Place) :
    (t.makeParents path).2.read? p = t.read? p := by
  unfold makeParents
  split
  · rfl
  · exact read?_makeFolders t [] _ p

/-- Where the folders on the way to a file have been made, making them again changes nothing. -/
theorem makeParents_of_makeParents (h : t.makeParents path = (.ok (), u)) (hv : u.KeepsFolders v) :
    v.makeParents path = (.ok (), v) := by
  unfold makeParents at h ⊢
  split at h
  · cases h
  · rename_i hnul
    rw [if_neg hnul]
    rcases hmade : t.makeFolders [] (splitPath path).1 with ⟨made, w⟩
    rw [hmade] at h
    cases made with
    | error fault => cases h
    | ok there =>
      -- The folders have been made, so making them again finds each of them and makes none.
      obtain rfl : w = u := congrArg Prod.snd h
      rw [makeFolders_of_makeFolders hmade hv]
      rfl

/-- Making the folders on the way to a file changes no refusal. -/
theorem refusal?_makeParents (h : t.makeParents path = (.ok (), u)) : u.refusal? = t.refusal? := by
  unfold makeParents at h
  split at h
  · cases h
  · obtain rfl : (t.makeFolders [] (splitPath path).1).2 = u := congrArg Prod.snd h
    exact (keepsFolders_makeFolders t [] _).refusal?_eq

/-- A way through folders stays open while they stay. -/
theorem follow_of_follow {here : Place} {names : List String} (h : t.follow here names = .ok ())
    (hv : t.KeepsFolders v) : v.follow here names = .ok () := by
  induction names generalizing here with
  | nil => rfl
  | cons name names ih =>
    unfold follow at h ⊢
    split at h
    · rename_i hdots
      rw [if_pos hdots]
      exact ih h
    · rename_i hdots
      rw [if_neg hdots]
      split at h
      · rename_i hfolder
        -- A folder on the way stays one, with the permissions that it has.
        rw [hv.folder _ hfolder, hv.refusal?_eq]
        split at h
        · cases h
        · exact ih h
      · cases h
      · cases h

/-! ## Files -/

/-- The file at a path can be opened for appending. -/
structure Opens (t : FileTree) (path : String) : Prop where
  nul : hasNul path = false
  ne_empty : path ≠ ""
  follow : t.follow [] (foldersOf path) = .ok ()
  named : (splitPath path).2.isSome = true
  notFolder : t.entry? (place path) ≠ some .folder
  allowed : t.refusal? .append (place path) = none

/-- The tree after the file at a path was opened, to whose end a text was written. -/
def withText (t : FileTree) (path text : String) : FileTree :=
  t.insert (place path) (.file ((t.read? (place path)).getD "" ++ text))

/-- Opening works just where nothing is in the way, and makes an empty file of a missing one. -/
theorem openFile_eq_ok_iff : t.openFile path = .ok u ↔ t.Opens path ∧ u = t.withText path "" := by
  have hexists {content : String} (h : t.entry? (place path) = some (.file content)) :
      t.withText path "" = t := by
    rw [withText, read?_eq_some_iff.2 h, Option.getD_some, String.append_empty, insert_of_entry? h]
  have hmissing (h : t.entry? (place path) = none) :
      t.withText path "" = t.insert (place path) (.file "") := by
    rw [withText, read?, h]
    rfl
  constructor
  · intro h
    unfold openFile at h
    -- All other ways through the operation end in a fault.
    split at h
    · cases h
    · rename_i hnul
      split at h
      · cases h
      · rename_i hempty
        split at h
        · cases h
        · cases h
        · rename_i hfollow hname
          have hnamed : (splitPath path).2.isSome = true := by rw [hname]; rfl
          split at h
          · cases h
          · rename_i hfile
            obtain ⟨hallowed, rfl⟩ := unlessRefused_eq_ok_iff.1 h
            exact ⟨⟨Bool.eq_false_iff.2 hnul, hempty, hfollow, hnamed, by rw [hfile]; nofun, hallowed⟩,
              (hexists hfile).symm⟩
          · rename_i hnone
            obtain ⟨hallowed, rfl⟩ := unlessRefused_eq_ok_iff.1 h
            exact ⟨⟨Bool.eq_false_iff.2 hnul, hempty, hfollow, hnamed, by rw [hnone]; nofun, hallowed⟩,
              (hmissing hnone).symm⟩
  · rintro ⟨h, rfl⟩
    obtain ⟨name, hname⟩ := Option.isSome_iff_exists.1 h.named
    unfold openFile
    rw [if_neg (Bool.eq_false_iff.1 h.nul), if_neg h.ne_empty, h.follow, hname]
    dsimp only
    cases hentry : t.entry? (place path) with
    | none => exact unlessRefused_eq_ok_iff.2 ⟨h.allowed, (hmissing hentry).symm⟩
    | some entry =>
      cases entry with
      | folder => exact absurd hentry h.notFolder
      | file content => exact unlessRefused_eq_ok_iff.2 ⟨h.allowed, (hexists hentry).symm⟩

/-- Writing works unless it is refused, and adds the text. -/
theorem write_eq_ok_iff {text : String} :
    t.write path text = .ok u ↔ t.refusal? .write (place path) = none ∧ t.withText path text = u :=
  unlessRefused_eq_ok_iff

/-- Where writing is refused, the reason for that is its fault. -/
theorem write_of_refusal? {fault : FileFault} (h : t.refusal? .write (place path) = some fault) (text : String) :
    t.write path text = .error fault := by
  rw [write, unlessRefused, h]

/-- After writing, the file at the path has the text at its end, and every other file is as it was. -/
theorem read?_withText (t : FileTree) (path text : String) (p : Place) :
    (t.withText path text).read? p =
      if p = place path then some ((t.read? (place path)).getD "" ++ text) else t.read? p :=
  read?_insert ..

/-- Texts that are written one after the other make one text. -/
theorem withText_withText (t : FileTree) (path text more : String) :
    (t.withText path text).withText path more = t.withText path (text ++ more) := by
  rw [withText, read?_withText, if_pos rfl, Option.getD_some, String.append_assoc, withText, insert_insert]
  rfl

/-- Opening the file at a path changes the content of no file that is there. -/
theorem read?_openFile_of_some (h : t.openFile path = .ok u) {p : Place} {content : String}
    (hp : t.read? p = some content) : u.read? p = some content := by
  obtain ⟨-, rfl⟩ := openFile_eq_ok_iff.1 h
  rw [read?_withText]
  split
  · rename_i hplace
    rw [← hplace, hp, Option.getD_some, String.append_empty]
  · exact hp

/-! ## Appending -/

/-- Appending works if the folders on the way can be made, the file can be opened and writing is not refused. -/
theorem append_fst_eq_ok_iff {content : String} :
    (t.append path content).1 = .ok () ↔
      ∃ u, t.makeParents path = (.ok (), u) ∧ u.Opens path ∧ t.refusal? .write (place path) = none := by
  unfold append
  rcases hmade : t.makeParents path with ⟨fault | ⟨⟨⟩⟩, u⟩
  · exact ⟨nofun, nofun⟩
  · -- Making folders changes no permission, so the file may be asked about before or after.
    have hrefusal := refusal?_makeParents hmade
    constructor
    · intro h
      dsimp only at h
      split at h
      · cases h
      · rename_i v hopened
        obtain ⟨hopens, rfl⟩ := openFile_eq_ok_iff.1 hopened
        split at h
        · cases h
        · rename_i hwritten
          obtain ⟨hallowed, -⟩ := write_eq_ok_iff.1 hwritten
          refine ⟨u, rfl, hopens, ?_⟩
          rw [← hrefusal]
          exact hallowed
    · rintro ⟨w, hw, hopens, hallowed⟩
      obtain rfl : u = w := congrArg Prod.snd hw
      rw [← hrefusal] at hallowed
      have hwritten : (u.withText path "").write path content = .ok ((u.withText path "").withText path content) :=
        write_eq_ok_iff.2 ⟨hallowed, rfl⟩
      dsimp only
      rw [openFile_eq_ok_iff.2 ⟨hopens, rfl⟩]
      dsimp only
      rw [hwritten]

/-- What an append that works leaves behind. -/
theorem append_eq_of_ok {content : String} (h : (t.append path content).1 = .ok ()) :
    ∃ u, t.makeParents path = (.ok (), u) ∧ u.Opens path ∧
      ∀ more, t.append path more = (.ok (), u.withText path more) := by
  obtain ⟨u, hmade, hopens, hallowed⟩ := append_fst_eq_ok_iff.1 h
  refine ⟨u, hmade, hopens, fun more => ?_⟩
  -- Whether it succeeds does not depend on what is appended, so all of it succeeds if nothing does.
  rw [← refusal?_makeParents hmade] at hallowed
  have hwritten : (u.withText path "").write path more = .ok ((u.withText path "").withText path more) :=
    write_eq_ok_iff.2 ⟨hallowed, rfl⟩
  unfold append
  rw [hmade]
  dsimp only
  rw [openFile_eq_ok_iff.2 ⟨hopens, rfl⟩]
  dsimp only
  rw [hwritten, withText_withText, String.empty_append]

/-- An append that works adds to the end of the file at the path, and leaves every other file as it was. -/
theorem read?_append_of_ok {content : String} (h : (t.append path content).1 = .ok ()) (p : Place) :
    (t.append path content).2.read? p =
      if p = place path then some ((t.read? (place path)).getD "" ++ content) else t.read? p := by
  obtain ⟨u, hmade, -, happend⟩ := append_eq_of_ok h
  have hread (q : Place) : u.read? q = t.read? q := by
    rw [← read?_makeParents t path q, hmade]
  rw [happend, read?_withText, hread, hread]

/-- A path that has been appended to can be appended to again. -/
theorem append_fst_append {content : String} (h : (t.append path content).1 = .ok ()) (more : String) :
    ((t.append path content).2.append path more).1 = .ok () := by
  obtain ⟨u, hmade, hopens, happend⟩ := append_eq_of_ok h
  obtain ⟨-, -, -, hallowed⟩ := append_fst_eq_ok_iff.1 h
  rw [happend]
  -- The file is not in the way of the folders, since there was none in its place.
  have hkept : u.KeepsFolders (u.withText path content) := .insert hopens.notFolder _
  refine append_fst_eq_ok_iff.2 ⟨_, makeParents_of_makeParents hmade hkept, ?_, ?_⟩
  · refine ⟨hopens.nul, hopens.ne_empty, follow_of_follow hopens.follow hkept, hopens.named, ?_, hopens.allowed⟩
    rw [withText, entry?_insert, if_pos rfl]
    exact nofun
  · rw [hkept.refusal?_eq, refusal?_makeParents hmade]
    exact hallowed

/-- Whether an append works does not depend on what is appended. -/
theorem append_fst_of_ok {content : String} (h : (t.append path content).1 = .ok ()) (more : String) :
    (t.append path more).1 = .ok () :=
  append_fst_eq_ok_iff.2 (append_fst_eq_ok_iff.1 h)

end Falsify.FileTree
