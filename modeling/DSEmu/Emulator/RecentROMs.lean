import Mathlib.Data.List.Dedup
import Mathlib.Data.List.Induction
import Mathlib.Data.List.Perm.Subperm
import Mathlib.Data.Nat.Notation

/-!
# The recent games

`RecentROMs` of `DSEmu/Emulator/RecentROMs.swift`. The list is kept in `UserDefaults`, as JSON, of
which it is assumed that they give back what was stored; what exists in the Documents directory may
change in any way between two calls. `add` stores the list as `entries` shows it, so that an entry
whose file is missing at an `add` is lost even if the file comes back.

`recency es` is what the list is meant to be, without its bound and without the files: the entries
in the order of their latest adds. `entries` is a sublist of it (`Inv.sublist`), and an entry whose
file stays comes after no other entries than those added since (`Follows`).
-/

namespace DSEmu

/-- An entry of the list. -/
structure ROMEntry where
  name : String
  /-- Relative to the Documents directory. -/
  path : String
  deriving DecidableEq, Repr

/-- The stored list, and which files exist in the Documents directory. -/
structure RecentROMs where
  stored : List ROMEntry := []
  fileExists : String → Bool

/-- A call of `add`, or a change of the files. -/
inductive RecentEvent where
  | add (entry : ROMEntry)
  /-- Files are created and deleted, so that these exist. -/
  | filesChanged (fileExists : String → Bool)

namespace RecentROMs

/-- The bound of the list. -/
def maxRecents : ℕ := 20

/-- The file of an entry exists. -/
def isThere (s : RecentROMs) (entry : ROMEntry) : Bool := s.fileExists entry.path

/-- `entries`. -/
def entries (s : RecentROMs) : List ROMEntry := s.stored.filter s.isThere

/-- `add(_:)`. -/
def add (entry : ROMEntry) (s : RecentROMs) : RecentROMs :=
  let list := entry :: s.entries.filter (· != entry)
  { s with stored := if list.length > maxRecents then list.take maxRecents else list }

/-- What an event does to the list and the files. -/
def step (s : RecentROMs) : RecentEvent → RecentROMs
  | .add entry => s.add entry
  | .filesChanged fileExists => { s with fileExists }

/-- The state after the events `es`, where nothing is stored at first. -/
def run (fileExists : String → Bool) (es : List RecentEvent) : RecentROMs :=
  es.foldl step { fileExists }

/-- One more event. -/
theorem run_concat (fileExists : String → Bool) (es : List RecentEvent) (e : RecentEvent) :
    run fileExists (es ++ [e]) = (run fileExists es).step e := by
  unfold run
  rw [List.foldl_append, List.foldl_cons, List.foldl_nil]

/-- What `add` stores. -/
theorem add_stored (entry : ROMEntry) (s : RecentROMs) :
    (s.add entry).stored = (entry :: s.entries.filter (· != entry)).take maxRecents := by
  show (if _ > maxRecents then _ else _) = _
  split
  case isTrue => rfl
  case isFalse h => exact (List.take_of_length_le (Nat.not_lt.mp h)).symm

/-! ### What the events say -/

/-- The entries that are added. -/
def addsOf (es : List RecentEvent) : List ROMEntry :=
  es.filterMap fun
    | .add entry => some entry
    | .filesChanged _ => none

/-- The entries in the order of their latest adds, newest first. -/
def recency (es : List RecentEvent) : List ROMEntry := (addsOf es).dedup.reverse

/-- After the events `pre` and `post`, a file has existed since before `post`. -/
def ExistsSince (fileExists : String → Bool) (pre post : List RecentEvent) (path : String) : Prop :=
  (run fileExists pre).fileExists path = true ∧
    ∀ files, .filesChanged files ∈ post → files path = true

/-- The entries added in two parts of a run. -/
theorem addsOf_append (es fs : List RecentEvent) : addsOf (es ++ fs) = addsOf es ++ addsOf fs :=
  List.filterMap_append

/-- The latest occurrence of an element is its last one. -/
theorem dedup_concat (l : List ROMEntry) (a : ROMEntry) :
    (l ++ [a]).dedup = l.dedup.filter (· != a) ++ [a] := by
  induction l with
  | nil => rfl
  | cons b l ih =>
    rw [List.cons_append, List.dedup_cons, List.dedup_cons, ih]
    by_cases hba : b = a
    · subst hba
      -- `dedup` keeps the last occurrence, so this `b` goes
      rw [if_pos (List.mem_append_right l (List.mem_singleton_self b))]
      split
      · rfl
      · rw [List.filter_cons_of_neg (by simp)]
    · have hmem : b ∈ l ++ [a] ↔ b ∈ l := by simp [hba]
      simp only [hmem]
      split
      · rfl
      · rw [List.filter_cons_of_pos (by simpa using hba), List.cons_append]

/-- An entry that is added is the most recent one. -/
theorem recency_add (es : List RecentEvent) (entry : ROMEntry) :
    recency (es ++ [.add entry]) = entry :: (recency es).filter (· != entry) := by
  unfold recency
  rw [addsOf_append]
  show (addsOf es ++ [entry]).dedup.reverse = _
  rw [dedup_concat, List.reverse_append, List.reverse_singleton, List.singleton_append,
    List.filter_reverse]

/-- Files that change do not matter to the order. -/
theorem recency_filesChanged (es : List RecentEvent) (fileExists : String → Bool) :
    recency (es ++ [.filesChanged fileExists]) = recency es := by
  unfold recency
  rw [addsOf_append]
  show (addsOf es ++ []).dedup.reverse = _
  rw [List.append_nil]

/-- No entry is twice in the order. -/
theorem nodup_recency (es : List RecentEvent) : (recency es).Nodup :=
  List.nodup_reverse.mpr (List.nodup_dedup _)

/-! ### Every run -/

/-- What is stored is in the order of the latest adds, and bounded. -/
structure Inv (es : List RecentEvent) (s : RecentROMs) : Prop where
  sublist : s.stored.Sublist (recency es)
  length_le : s.stored.length ≤ maxRecents

/-- The invariant when an entry is added. -/
theorem Inv.add {es : List RecentEvent} {s : RecentROMs} (h : Inv es s) (entry : ROMEntry) :
    Inv (es ++ [.add entry]) (s.add entry) := by
  constructor
  case sublist =>
    rw [add_stored, recency_add]
    have hentries : s.entries.Sublist (recency es) := List.filter_sublist.trans h.sublist
    exact (List.take_sublist _ _).trans ((hentries.filter _).cons_cons entry)
  case length_le =>
    rw [add_stored]
    exact List.length_take_le _ _

/-- The run lemma. -/
theorem inv_run (fileExists : String → Bool) (es : List RecentEvent) :
    Inv es (run fileExists es) := by
  induction es using List.reverseRecOn with
  | nil => exact ⟨List.nil_sublist _, Nat.zero_le _⟩
  | append_singleton es e ih =>
    rw [run_concat]
    cases e with
    | add entry => exact ih.add entry
    | filesChanged files =>
      exact ⟨(recency_filesChanged es files).symm ▸ ih.sublist, ih.length_le⟩

/-- An entry stays in a bounded list behind a few others. -/
theorem take_behind {front back : List ROMEntry} {entry : ROMEntry} {n : ℕ}
    (h : front.length < n) :
    (front ++ entry :: back).take n = front ++ entry :: back.take (n - front.length - 1) := by
  rw [List.take_append, List.take_of_length_le (Nat.le_of_lt h)]
  congr 1
  obtain ⟨k, hk⟩ : ∃ k, n - front.length = k + 1 := ⟨n - front.length - 1, by omega⟩
  rw [hk, List.take_succ_cons, Nat.add_sub_cancel]

/-- Distinct entries that have been added are not more than the distinct entries added. -/
theorem length_le_of_subset {l : List ROMEntry} {es : List RecentEvent} (hl : l.Nodup)
    (hsubset : ∀ entry ∈ l, entry ∈ addsOf es) : l.length ≤ (addsOf es).dedup.length :=
  (List.subperm_of_subset hl fun entry hentry =>
    List.mem_dedup.mpr (hsubset entry hentry)).length_le

/-- The entry is stored behind no other entries than those that `post` adds. -/
def Follows (entry : ROMEntry) (post : List RecentEvent) (s : RecentROMs) : Prop :=
  ∃ front back, s.stored = front ++ entry :: back ∧ ∀ other ∈ front, other ∈ addsOf post

/-- An entry that has just been added is in front. -/
theorem follows_self (entry : ROMEntry) (s : RecentROMs) : Follows entry [] (s.add entry) := by
  refine ⟨[], (s.entries.filter (· != entry)).take (maxRecents - 1), ?_, nofun⟩
  rw [add_stored]
  rfl

/-- The add of another entry moves the entry back by at most one place. -/
theorem Follows.add {entry other : ROMEntry} {post : List RecentEvent} {s : RecentROMs}
    (h : Follows entry post s) (hnodup : s.stored.Nodup) (hne : other ≠ entry)
    (hexists : s.fileExists entry.path = true)
    (hfew : (addsOf (post ++ [.add other])).dedup.length < maxRecents) :
    Follows entry (post ++ [.add other]) (s.add other) := by
  obtain ⟨front, back, hstored, hfront⟩ := h
  -- `entries` drops the missing files and `add` the old place of `other`; the entry survives both.
  have hkept : s.entries.filter (· != other) =
      (front.filter s.isThere).filter (· != other) ++ entry ::
        (back.filter s.isThere).filter (· != other) := by
    have hthere : s.isThere entry = true := hexists
    have hentry : (entry != other) = true := by simpa using hne.symm
    unfold entries
    rw [hstored, List.filter_append, List.filter_cons_of_pos hthere, List.filter_append,
      List.filter_cons_of_pos (p := (· != other)) hentry]
  generalize hkeptFront : (front.filter s.isThere).filter (· != other) = front' at hkept
  have hsublist : front'.Sublist front := by
    rw [← hkeptFront]
    exact List.filter_sublist.trans List.filter_sublist
  have hsubset : ∀ e ∈ other :: front', e ∈ addsOf (post ++ [.add other]) := by
    intro e he
    rw [addsOf_append]
    rcases List.mem_cons.mp he with rfl | he
    · exact List.mem_append_right _ (List.mem_singleton_self e)
    · exact List.mem_append_left _ (hfront e (hsublist.subset he))
  -- The entries in front are distinct and were all added since, so there are fewer than 20 of them.
  have hdistinct : (other :: front').Nodup := by
    rw [hstored] at hnodup
    refine List.nodup_cons.mpr ⟨fun hmem => ?_, (List.Nodup.of_append_left hnodup).sublist hsublist⟩
    rw [← hkeptFront] at hmem
    simpa using (List.mem_filter.mp hmem).2
  have hlength : (other :: front').length < maxRecents :=
    Nat.lt_of_le_of_lt (length_le_of_subset hdistinct hsubset) hfew
  have hstored' : (s.add other).stored = _ := add_stored other s
  rw [hkept, ← List.cons_append, take_behind hlength] at hstored'
  exact ⟨_, _, hstored', hsubset⟩

/-- A file that has existed since exists now. -/
theorem ExistsSince.now {fileExists : String → Bool} {pre : List RecentEvent} {entry : ROMEntry}
    {post : List RecentEvent} (h : ExistsSince fileExists pre post entry.path) :
    (run fileExists (pre ++ .add entry :: post)).fileExists entry.path = true := by
  obtain ⟨hbefore, hsince⟩ := h
  -- the last change of the files, if there was one, has kept it
  induction post using List.reverseRecOn with
  | nil =>
    rw [run_concat]
    exact hbefore
  | append_singleton post e ih =>
    rw [← List.cons_append, ← List.append_assoc, run_concat]
    cases e with
    | add other => exact ih fun files hmem => hsince files (List.mem_append_left _ hmem)
    | filesChanged files => exact hsince files (List.mem_append_right _ (List.mem_singleton_self _))

/-- An entry stays on the list while few others are added. -/
theorem follows_run {fileExists : String → Bool} {pre post : List RecentEvent} {entry : ROMEntry}
    (hpost : entry ∉ addsOf post) (hexists : ExistsSince fileExists pre post entry.path)
    (hfew : (addsOf post).dedup.length < maxRecents) :
    Follows entry post (run fileExists (pre ++ .add entry :: post)) := by
  induction post using List.reverseRecOn with
  | nil =>
    rw [run_concat]
    exact follows_self entry _
  | append_singleton post e ih =>
    -- what holds of `post` with `e` holds of `post`
    have hsince : ExistsSince fileExists pre post entry.path :=
      ⟨hexists.1, fun files hmem => hexists.2 files (List.mem_append_left _ hmem)⟩
    rw [addsOf_append] at hpost
    have hbefore : entry ∉ addsOf post := fun hmem => hpost (List.mem_append_left _ hmem)
    -- fewer entries were added before `e`
    have hfewBefore : (addsOf post).dedup.length < maxRecents := by
      refine Nat.lt_of_le_of_lt (length_le_of_subset (List.nodup_dedup _) fun other hmem => ?_) hfew
      rw [addsOf_append]
      exact List.mem_append_left _ (List.mem_dedup.mp hmem)
    have hfollows := ih hbefore hsince hfewBefore
    rw [← List.cons_append, ← List.append_assoc, run_concat]
    cases e with
    | add other =>
      have hne : other ≠ entry := by
        rintro rfl
        exact hpost (List.mem_append_right _ (List.mem_singleton_self _))
      have hnodup :=
        (nodup_recency _).sublist (inv_run fileExists (pre ++ .add entry :: post)).sublist
      exact hfollows.add hnodup hne hsince.now hfew
    | filesChanged files =>
      obtain ⟨front, back, hstored, hfront⟩ := hfollows
      refine ⟨front, back, hstored, fun other hmem => ?_⟩
      rw [addsOf_append]
      exact List.mem_append_left _ (hfront other hmem)

/-- What holds of the list that `entries` reads after the events `es`. -/
structure RecentlyUsed (fileExists : String → Bool) (es : List RecentEvent) (s : RecentROMs) :
    Prop where
  nodup : s.entries.Nodup
  length_le : s.entries.length ≤ 20
  exist : ∀ entry ∈ s.entries, s.fileExists entry.path = true
  /-- The entries are in the order of their latest adds, newest first. -/
  ordered : s.entries.Sublist (recency es)
  /-- An entry is there if its file has existed since its latest add, before `post`, and fewer than
  20 distinct entries have been added since. -/
  complete : ∀ pre entry post, es = pre ++ .add entry :: post → entry ∉ addsOf post →
    ExistsSince fileExists pre post entry.path → (addsOf post).dedup.length < 20 →
    entry ∈ s.entries

/-- The recent games are a bounded most-recently-used list, after all adds and changes of files. -/
theorem recentROMs_recentlyUsed (fileExists : String → Bool) (es : List RecentEvent) :
    RecentlyUsed fileExists es (run fileExists es) := by
  have hinv := inv_run fileExists es
  have hentries : (run fileExists es).entries.Sublist (recency es) :=
    List.filter_sublist.trans hinv.sublist
  constructor
  case nodup => exact (nodup_recency es).sublist hentries
  case length_le =>
    calc (run fileExists es).entries.length ≤ (run fileExists es).stored.length :=
          List.length_filter_le _ _
      _ ≤ 20 := hinv.length_le
  case exist => exact fun entry hmem => (List.mem_filter.mp hmem).2
  case ordered => exact hentries
  case complete =>
    rintro pre entry post rfl hpost hexists hfew
    -- it is stored behind the entries added since, and its file exists
    obtain ⟨front, back, hstored, -⟩ := follows_run hpost hexists hfew
    refine List.mem_filter.mpr ⟨?_, hexists.now⟩
    rw [hstored]
    exact List.mem_append_right _ List.mem_cons_self

/-- An entry is lost where its file is missing at an add, even if the file comes back. -/
example :
    let gba : ROMEntry := ⟨"GBA", "gba.nds"⟩
    let other : ROMEntry := ⟨"Other", "other.nds"⟩
    (run (fun _ => true) [.add gba, .filesChanged (· == "other.nds"), .add other,
      .filesChanged fun _ => true]).entries = [other] := by
  decide

end RecentROMs

end DSEmu
