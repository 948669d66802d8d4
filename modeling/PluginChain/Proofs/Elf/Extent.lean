import PluginChain.Proofs.Elf.Strict

/-!
# How far the dynamic section is read

How many entries the dynamic section has is what its segment says, and a segment can say anything.
`Layout.scan` reads the section and keeps an account: the entries that were read whole, and how many
rounds it took. Entries that were read whole stand in the image one after the other. So what the
segment says beyond the image is never read: where the offset of an entry is cut off at the greatest
one, the entry is past the end of the image, as at the exact offset.

Main statements:
* `Layout.result_scan`: the account is of what `Layout.entries` reads.
* `Layout.scanFrom_within`: entries that were read whole stand in the image.
* `neededLibraries_bounded`: whatever the bytes of an image are, they bound how much of it is read.
-/

namespace PluginChain.Elf

variable {image : Image} {layout : Layout}

/-! ## The account of a reading -/

/-- What ends the reading of the dynamic section. -/
inductive Stop where
  /-- The null entry. -/
  | null
  /-- The end of the section, as its segment says. -/
  | declared
  /-- An entry that cannot be read. -/
  | failed (error : Error)
deriving DecidableEq, Repr

/-- The account of a reading of the dynamic section. -/
structure Scan where
  /-- The entries that were read whole, the null entry among them. -/
  entries : List Entry
  /-- The number of entries that were begun. -/
  rounds : Nat
  stop : Stop

/-- What the reading comes to. -/
def Scan.result (s : Scan) : Except Error (List Entry) :=
  match s.stop with
  | .failed error => .error error
  | _ => .ok (s.entries.takeWhile fun e => e.tag ≠ nullTag)

/-- Reads at most `count` entries from number `index` on. -/
def Layout.scanFrom (layout : Layout) (image : Image) (start index : Nat) : (count : Nat) → Scan
  | 0 => ⟨[], 0, .declared⟩
  | count + 1 =>
    match layout.entryAt image (saturatingAdd start (index * layout.wordSize.entryBytes)) with
    | .error error => ⟨[], 1, .failed error⟩
    | .ok entry =>
      if entry.tag = nullTag then ⟨[entry], 1, .null⟩
      else
        let rest := layout.scanFrom image start (index + 1) count
        ⟨entry :: rest.entries, rest.rounds + 1, rest.stop⟩

/-- Reads the dynamic section in a segment. -/
def Layout.scan (layout : Layout) (image : Image) (segment : Segment) : Scan :=
  layout.scanFrom image segment.offset 0 (segment.size / layout.wordSize.entryBytes)

namespace Layout

theorem result_scanFrom (layout : Layout) (image : Image) (start index count : Nat) :
    (layout.scanFrom image start index count).result =
      layout.entriesFrom image start index count := by
  induction count generalizing index with
  | zero => rfl
  | succ count ih =>
    rw [scanFrom, entriesFrom, ← ih]
    cases layout.entryAt image (saturatingAdd start (index * layout.wordSize.entryBytes)) with
    | error error => rfl
    | ok entry =>
      by_cases htag : entry.tag = nullTag
      · simp [htag, Scan.result, bind, Except.bind, pure, Except.pure]
      · simp only [htag, if_false, Scan.result]
        cases (layout.scanFrom image start (index + 1) count).stop <;>
          simp [htag, bind, Except.bind, pure, Except.pure]

/-- The account is of what is read. -/
theorem result_scan (layout : Layout) (image : Image) (segment : Segment) :
    (layout.scan image segment).result = layout.entries image segment :=
  result_scanFrom ..

theorem eq_truncated_of_readWord {part : Part} {offset : Nat} {error : Error}
    (h : layout.readWord image part offset = .error error) : error = .truncated part := by
  unfold readWord ByteOrder.read at h
  split at h
  · cases h
  · exact (Except.error.inj h).symm

/-- An entry that cannot be read does not end inside the image. -/
theorem eq_truncated_of_entryAt {offset : Nat} {error : Error}
    (h : layout.entryAt image offset = .error error) :
    error = .truncated .dynamicSection := by
  rcases bind_eq_error_iff.1 h with htag | ⟨tag, -, h⟩
  · exact eq_truncated_of_readWord htag
  · rcases bind_eq_error_iff.1 h with hvalue | ⟨value, -, hpure⟩
    · exact eq_truncated_of_readWord hvalue
    · cases hpure

section

variable (layout : Layout) (image : Image) (start index count : Nat)

theorem length_scanFrom_le : (layout.scanFrom image start index count).entries.length ≤ count := by
  fun_induction scanFrom layout image start index count with
  | case1 => exact Nat.le_refl 0
  | case2 => exact Nat.zero_le _
  | case3 => exact Nat.succ_le_succ (Nat.zero_le _)
  | case4 index count entry _ _ rest ih => exact Nat.succ_le_succ ih

/-- At most one entry is begun and not read whole. -/
theorem rounds_scanFrom_le :
    (layout.scanFrom image start index count).rounds ≤
      (layout.scanFrom image start index count).entries.length + 1 := by
  fun_induction scanFrom layout image start index count with
  | case1 => exact Nat.zero_le _
  | case2 => exact Nat.le_refl 1
  | case3 => exact Nat.le_succ 1
  | case4 index count entry _ _ rest ih => exact Nat.succ_le_succ ih

theorem stop_scanFrom {error : Error}
    (h : (layout.scanFrom image start index count).stop = .failed error) :
    error = .truncated .dynamicSection := by
  fun_induction scanFrom layout image start index count with
  | case1 => cases h
  | case2 index count e he =>
    cases h
    exact eq_truncated_of_entryAt he
  | case3 => cases h
  | case4 index count entry _ _ rest ih => exact ih h

end

/-- The last of the entries that were read whole ends in the image, where all those before it leave
    it. -/
theorem scanFrom_within (hsize : image.size < offsetBound) {start index count : Nat}
    (h : (layout.scanFrom image start index count).entries ≠ []) :
    start + (index + (layout.scanFrom image start index count).entries.length) *
      layout.wordSize.entryBytes ≤ image.size := by
  have hwhole {index : Nat} {entry : Entry}
      (hread : layout.entryAt image (saturatingAdd start (index * layout.wordSize.entryBytes)) =
        .ok entry) :
      start + (index + 1) * layout.wordSize.entryBytes ≤ image.size := by
    rw [entryAt_saturatingAdd hsize, entryAt_eq_ok_iff hsize] at hread
    have hvalue := ByteOrder.Shows.le_size hread.value layout.wordSize.bytes_pos
    have hbytes : layout.wordSize.entryBytes = 2 * layout.wordSize.bytes := rfl
    rw [Nat.succ_mul]
    omega
  fun_induction scanFrom layout image start index count with
  | case1 => exact absurd rfl h
  | case2 => exact absurd rfl h
  | case3 index count entry hread => exact hwhole hread
  | case4 index count entry hread _ rest ih =>
    by_cases hrest : rest.entries = []
    · simpa [hrest] using hwhole hread
    · have hwithin := ih hrest
      rwa [Nat.add_assoc, Nat.add_comm 1] at hwithin

end Layout

/-- The account of a reading of an image of `size` bytes stays within the image. -/
structure Scan.Within (s : Scan) (w : WordSize) (size : Nat) : Prop where
  whole : s.entries.length * w.entryBytes ≤ size
  rounds : s.rounds ≤ size / w.entryBytes + 1
  stop : s.stop = .null ∨ s.stop = .declared ∨ s.stop = .failed (.truncated .dynamicSection)

theorem WordSize.entryBytes_pos (w : WordSize) : 0 < w.entryBytes := by
  cases w <;> decide

/-- The dynamic section is read within the image, whatever size below the bound its segment has. -/
theorem Layout.scan_within (layout : Layout) (image : Image) {segment : Segment}
    (hsegment : segment.size < offsetBound) :
    (layout.scan image segment).Within layout.wordSize image.size := by
  have hwhole :
      (layout.scan image segment).entries.length * layout.wordSize.entryBytes ≤ image.size := by
    by_cases hsize : image.size < offsetBound
    · by_cases hentries : (layout.scan image segment).entries = []
      · simp [hentries]
      · have hwithin := scanFrom_within hsize hentries
        rw [Nat.zero_add] at hwithin
        exact Nat.le_trans (Nat.le_add_left ..) hwithin
    · -- An image beyond the bound is longer than any segment.
      have hcount : (layout.scan image segment).entries.length ≤
          segment.size / layout.wordSize.entryBytes :=
        length_scanFrom_le ..
      have := Nat.le_trans (Nat.mul_le_mul_right layout.wordSize.entryBytes hcount)
        (Nat.div_mul_le_self ..)
      omega
  constructor
  case whole => exact hwhole
  case rounds =>
    have hlength := (Nat.le_div_iff_mul_le layout.wordSize.entryBytes_pos).2 hwhole
    exact Nat.le_trans (rounds_scanFrom_le ..) (Nat.succ_le_succ hlength)
  case stop =>
    cases hstop : (layout.scan image segment).stop with
    | null => exact .inl rfl
    | declared => exact .inr (.inl rfl)
    | failed error => exact .inr (.inr (congrArg Stop.failed (stop_scanFrom _ _ _ _ _ hstop)))

/-- A segment that claims the greatest size, in an image of 11 bytes: there are two rounds, and no
    more are possible. -/
example :
    let s :=
      Layout.scan ⟨.bits32, .little⟩ #[5, 0, 0, 0, 6, 0, 0, 0, 1, 0, 0]
        ⟨dynamic, 0, 0, offsetBound - 1⟩
    s.entries = [⟨stringTableTag, 6⟩] ∧ s.rounds = 2 ∧
      s.stop = .failed (.truncated .dynamicSection) := by
  decide +kernel

/-! ## The number of names -/

theorem length_namesAt {table : Nat} {tableSize : Option Nat} {places : List Nat}
    {names : List String} (h : namesAt image table tableSize places = .ok names) :
    names.length = places.length := by
  induction places generalizing names with
  | nil =>
    cases h
    rfl
  | cons place rest ih =>
    obtain ⟨name, -, h⟩ := bind_eq_ok_iff.1 h
    obtain ⟨others, hothers, ⟨⟩⟩ := bind_eq_ok_iff.1 h
    exact congrArg Nat.succ (ih hothers)

/-- Each name comes of an entry of its own. -/
theorem length_neededOf_le {segments : List Segment} {entries : List Entry} {names : List String}
    (h : neededOf image segments entries = .ok names) : names.length ≤ entries.length := by
  have hvalues : (valuesOf neededTag entries).length ≤ entries.length := by
    rw [valuesOf, List.length_map]
    exact List.length_filter_le ..
  have hnames : names.length = (valuesOf neededTag entries).length := by
    unfold neededOf at h
    split at h
    · rename_i hnone
      cases h
      simp [hnone]
    · rename_i place places hsome
      split at h
      · cases h
      split at h
      · cases h
      rw [length_namesAt h, hsome]
  omega

/-- What is read leaves the null entry out, and nothing that was not read whole is in it. -/
theorem Scan.length_le_of_result {s : Scan} {entries : List Entry} (h : s.result = .ok entries) :
    entries.length ≤ s.entries.length := by
  have htake : (s.entries.takeWhile fun e => e.tag ≠ nullTag).length ≤ s.entries.length :=
    (List.takeWhile_sublist _).length_le
  unfold result at h
  split at h
  · cases h
  · cases h
    exact htake

theorem length_neededLibraries_le {names : List String}
    (hlayout : Layout.ofImage image = .ok layout) (h : neededLibraries image = .ok names) :
    names.length ≤ image.size / layout.wordSize.entryBytes := by
  unfold neededLibraries at h
  obtain ⟨layout', hlayout', h⟩ := bind_eq_ok_iff.1 h
  obtain rfl := Except.ok.inj (hlayout.symm.trans hlayout')
  obtain ⟨segments, hsegments, h⟩ := bind_eq_ok_iff.1 h
  split at h
  · cases h
  rename_i segment hsegment
  obtain ⟨entries, hentries, h⟩ := bind_eq_ok_iff.1 h
  rw [← Layout.result_scan] at hentries
  have hsize := Layout.size_lt_of_segments hsegments segment (List.mem_of_find?_eq_some hsegment)
  calc names.length ≤ entries.length := length_neededOf_le h
    _ ≤ (layout.scan image segment).entries.length := Scan.length_le_of_result hentries
    _ ≤ image.size / layout.wordSize.entryBytes :=
      (Nat.le_div_iff_mul_le layout.wordSize.entryBytes_pos).2
        (layout.scan_within image hsize).whole

/-! ## Any image -/

/-- Reading the image stays within its bytes and within words of 64 bits. -/
structure Bounded (image : Image) : Prop where
  /-- A strict run is not stuck: every product and every difference is a word, and every part that
      is taken is there. -/
  strict : Strict.neededLibraries image = Strict.checked (neededLibraries image)
  /-- What a segment claims as its size is a word. -/
  claimed : ∀ (layout : Layout) (segments : List Segment), layout.segments image = .ok segments →
    ∀ s ∈ segments, s.size < offsetBound
  /-- Whatever word it is, the entries that are read whole fit into the image, and one more is begun
      at most. -/
  within : ∀ (layout : Layout) (segment : Segment), segment.size < offsetBound →
    layout.entries image segment = (layout.scan image segment).result ∧
      (layout.scan image segment).Within layout.wordSize image.size
  /-- There are no more names than entries that fit into the image. -/
  names : ∀ (layout : Layout) (names : List String), Layout.ofImage image = .ok layout →
    neededLibraries image = .ok names → names.length ≤ image.size / layout.wordSize.entryBytes

/-- Whatever the bytes of an image are, they bound how much of it is read. -/
theorem neededLibraries_bounded (image : Image) : Bounded image := by
  constructor
  case strict => exact Strict.neededLibraries_eq image
  case claimed => exact fun layout segments hsegments => Layout.size_lt_of_segments hsegments
  case within =>
    intro layout segment hsegment
    exact ⟨(layout.result_scan image segment).symm, layout.scan_within image hsegment⟩
  case names => exact fun layout names hlayout hnames => length_neededLibraries_le hlayout hnames

end PluginChain.Elf
