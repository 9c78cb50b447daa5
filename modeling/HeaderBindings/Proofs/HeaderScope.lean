import HeaderBindings.Binding.Model
import HeaderBindings.Proofs.NormalPath

/-! Which files are in the scope of a binding. A file counts for the first header that names it and for
no other, so the order of the headers can matter; and a directory is told by its text and not by its
parts, so a file elsewhere can be taken for one in it. -/

namespace HeaderBindings

/-! What the scope looks at. -/

def IsNamed (headers : List (List Char)) (file : List Char) : Prop :=
  ∃ header ∈ headers, namesFile header file = true

/-- Whether a header with a directory names the file, be it the first one to do so or not. -/
def CanLead (headers : List (List Char)) (file : List Char) : Prop :=
  ∃ header ∈ headers, namesFile header file = true ∧ bringsDirectory header = true

/-- Whether the first header that names the file is one with a directory. -/
def Leads (headers : List (List Char)) (file : List Char) : Prop :=
  ∃ header, headers.find? (namesFile · file) = some header ∧ bringsDirectory header = true

/-- Whether a file is bound along with another. -/
def Follows (leader file : List Char) : Prop := directoryOf leader ++ ['/'] <+: file

section

variable {headers others included : List (List Char)} {header leader file : List Char}

theorem ne_nil_of_bringsDirectory (h : bringsDirectory header = true) : header ≠ [] := by
  rintro rfl
  exact absurd h (by decide)

theorem headerOf_eq_some :
    headerOf headers file = some header ↔
      headers.find? (namesFile · file) = some header ∧ header ≠ [] := by
  rw [headerOf, Option.filter_eq_some_iff, decide_eq_true_iff]

theorem exists_find?_iff :
    (∃ header, headers.find? (namesFile · file) = some header) ↔ IsNamed headers file := by
  rw [← Option.isSome_iff_exists, List.find?_isSome, IsNamed]

theorem Leads.canLead (h : Leads headers leader) : CanLead headers leader := by
  obtain ⟨header, hfind, hbrings⟩ := h
  have hnames := List.find?_some hfind
  exact ⟨header, List.mem_of_find?_eq_some hfind, hnames, hbrings⟩

theorem CanLead.isNamed (h : CanLead headers leader) : IsNamed headers leader := by
  obtain ⟨header, hheader, hnames, -⟩ := h
  exact ⟨header, hheader, hnames⟩

theorem mem_boundDirectories {directory : List Char} :
    directory ∈ boundDirectories headers included ↔
      ∃ leader ∈ included, Leads headers leader ∧ directoryOf leader ++ ['/'] = directory := by
  rw [boundDirectories, List.mem_filterMap]
  refine exists_congr fun leader => and_congr_right fun _ => ?_
  constructor
  · intro hmatch
    split at hmatch
    · next header hheader =>
      split at hmatch
      · next hbrings =>
        exact ⟨⟨header, (headerOf_eq_some.mp hheader).1, hbrings⟩, Option.some.inj hmatch⟩
      · cases hmatch
    · cases hmatch
  · rintro ⟨⟨header, hfind, hbrings⟩, rfl⟩
    have hheader := headerOf_eq_some.mpr ⟨hfind, ne_nil_of_bringsDirectory hbrings⟩
    simp only [hheader, if_pos hbrings]

theorem inScope_iff :
    inScope headers included file = true ↔ file ∈ included ∧
      ((∃ header, headers.find? (namesFile · file) = some header ∧ header ≠ []) ∨
        ∃ leader ∈ included, Leads headers leader ∧ Follows leader file) := by
  rw [inScope, Bool.and_eq_true, List.contains_iff_mem, Bool.or_eq_true, Option.isSome_iff_exists,
    List.any_eq_true]
  simp only [headerOf_eq_some, mem_boundDirectories, List.isPrefixOf_iff_prefix, Follows]
  refine and_congr_right fun _ => or_congr_right ⟨?_, ?_⟩
  · rintro ⟨_, ⟨leader, hleader, hleads, rfl⟩, hfollows⟩
    exact ⟨leader, hleader, hleads, hfollows⟩
  · rintro ⟨leader, hleader, hleads, hfollows⟩
    exact ⟨_, ⟨leader, hleader, hleads, rfl⟩, hfollows⟩

/-! What a header names. -/

theorem namesFile_iff :
    namesFile header file = true ↔ normalizePath file = normalizePath header ∨
      '/' :: normalizePath header <:+ normalizePath file := by
  rw [namesFile, Bool.or_eq_true, beq_iff_eq, List.isSuffixOf_iff_suffix]

theorem filter_pathParts_suffix {text : List Char} (h : '/' :: text <:+ normalizePath file) :
    (pathParts text).filter (· ≠ []) <:+ normalParts file := by
  have hfile : normalizePath file ≠ ['.'] := by
    intro hdot
    have hslash : '/' ∈ normalizePath file := h.subset List.mem_cons_self
    rw [hdot] at hslash
    exact absurd hslash (by decide)
  obtain ⟨lead, htext⟩ := h
  rw [← filter_pathParts_normalizePath hfile, ← htext, pathParts_slash, List.filter_append]
  exact List.suffix_append _ _

theorem normalParts_of_namesFile (h : namesFile header file = true) :
    normalParts header <:+ normalParts file := by
  rcases namesFile_iff.mp h with hsame | hlast
  · have hparts : normalParts header = normalParts file := by
      rw [← normalParts_normalizePath file, hsame, normalParts_normalizePath]
    exact ⟨[], hparts⟩
  · by_cases hheader : normalizePath header = ['.']
    · rw [← normalParts_normalizePath header, hheader]
      exact List.nil_suffix
    · rw [← filter_pathParts_normalizePath hheader]
      exact filter_pathParts_suffix hlast

theorem eq_dot_of_namesFile_nil (h : namesFile [] file = true) : normalizePath file = ['.'] := by
  rcases namesFile_iff.mp h with hsame | hlast
  · exact hsame
  · have hdot : ['.'] ∈ normalParts file := (filter_pathParts_suffix hlast).subset (by decide)
    exact absurd rfl ((isNormal_normalParts file).plain _ hdot).2.1

theorem Follows.not_namesFile_nil (h : Follows leader file) (hfile : normalizePath file = file) :
    namesFile [] file = false := by
  rw [← Bool.not_eq_true]
  intro hnames
  have hslash : '/' ∈ file := h.subset (by simp)
  rw [← hfile, eq_dot_of_namesFile_nil hnames] at hslash
  exact absurd hslash (by decide)

/-! The order of the headers. -/

/-- What some order of the headers binds. -/
def InReach (headers included : List (List Char)) (file : List Char) : Prop :=
  file ∈ included ∧ ((∃ header ∈ headers, header ≠ [] ∧ namesFile header file = true) ∨
    ∃ leader ∈ included, CanLead headers leader ∧ Follows leader file)

/-- Every order of the headers binds what some order binds: no header without a text, which binds
nothing, is in the way of another one; and a file without a header of its own that can be bound along
with some file is bound along with one that only headers with a directory name. -/
structure IsSettled (headers included : List (List Char)) : Prop where
  named : ∀ file ∈ included, [] ∈ headers → namesFile [] file = true →
    ∀ header ∈ headers, namesFile header file = true → header = []
  followed : ∀ file ∈ included, ¬ IsNamed headers file →
    ∀ leader ∈ included, CanLead headers leader → Follows leader file →
      ∃ other ∈ included, IsNamed headers other ∧
        (∀ header ∈ headers, namesFile header other = true → bringsDirectory header = true) ∧
        Follows other file

theorem inReach_of_inScope (h : inScope headers included file = true) :
    InReach headers included file := by
  obtain ⟨hfile, ⟨header, hfind, hne⟩ | ⟨leader, hleader, hleads, hfollows⟩⟩ := inScope_iff.mp h
  · have hnames := List.find?_some hfind
    exact ⟨hfile, .inl ⟨header, List.mem_of_find?_eq_some hfind, hne, hnames⟩⟩
  · exact ⟨hfile, .inr ⟨leader, hleader, hleads.canLead, hfollows⟩⟩

theorem InReach.mono (h : InReach headers included file) (hsubset : headers ⊆ others) :
    InReach others included file := by
  obtain ⟨hfile, ⟨header, hheader, hnames⟩ | ⟨leader, hleader, hcan, hfollows⟩⟩ := h
  · exact ⟨hfile, .inl ⟨header, hsubset hheader, hnames⟩⟩
  · obtain ⟨header, hheader, hbrings⟩ := hcan
    exact ⟨hfile, .inr ⟨leader, hleader, ⟨header, hsubset hheader, hbrings⟩, hfollows⟩⟩

theorem IsSettled.congr (h : IsSettled headers included)
    (hsame : ∀ header, header ∈ others ↔ header ∈ headers) : IsSettled others included where
  named := by simpa only [hsame] using h.named
  followed := by simpa only [IsNamed, CanLead, hsame] using h.followed

theorem inScope_of_isSettled (h : IsSettled headers included)
    (hnormal : ∀ file ∈ included, normalizePath file = file)
    (hreach : InReach headers included file) : inScope headers included file = true := by
  obtain ⟨hfile, hreach⟩ := hreach
  refine inScope_iff.mpr ⟨hfile, ?_⟩
  by_cases hnamed : IsNamed headers file
  · left
    obtain ⟨first, hfind⟩ := exists_find?_iff.mpr hnamed
    refine ⟨first, hfind, ?_⟩
    rintro rfl
    have hempty := List.find?_some hfind
    have hmem := List.mem_of_find?_eq_some hfind
    rcases hreach with ⟨header, hheader, hne, hnames⟩ | ⟨leader, -, -, hfollows⟩
    · exact hne (h.named file hfile hmem hempty header hheader hnames)
    · exact absurd hempty (by simp [hfollows.not_namesFile_nil (hnormal file hfile)])
  · right
    rcases hreach with ⟨header, hheader, -, hnames⟩ | ⟨leader, hleader, hcan, hfollows⟩
    · exact absurd ⟨header, hheader, hnames⟩ hnamed
    · obtain ⟨other, hother, hnames, hbrings, hfollows⟩ :=
        h.followed file hfile hnamed leader hleader hcan hfollows
      obtain ⟨first, hfind⟩ := exists_find?_iff.mpr hnames
      have hfirst := List.find?_some hfind
      exact ⟨other, hother,
        ⟨first, hfind, hbrings first (List.mem_of_find?_eq_some hfind) hfirst⟩, hfollows⟩

theorem inScope_mono_of_isSettled (h : IsSettled headers included)
    (hnormal : ∀ file ∈ included, normalizePath file = file) (hothers : others ⊆ headers)
    (hfile : inScope others included file = true) : inScope headers included file = true :=
  inScope_of_isSettled h hnormal ((inReach_of_inScope hfile).mono hothers)

/-- The headers with those in front that bring no directory. -/
def plainFirst (headers : List (List Char)) : List (List Char) :=
  headers.filter (!bringsDirectory ·) ++ headers.filter (bringsDirectory ·)

theorem mem_plainFirst : header ∈ plainFirst headers ↔ header ∈ headers := by
  simp only [plainFirst, List.mem_append, List.mem_filter]
  cases bringsDirectory header <;> simp

theorem Leads.of_plainFirst (h : Leads (plainFirst headers) leader) :
    ∀ header ∈ headers, namesFile header leader = true → bringsDirectory header = true := by
  intro header hheader hnames
  obtain ⟨first, hfind, hbrings⟩ := h
  by_contra hplain
  have hfront : header ∈ headers.filter (!bringsDirectory ·) := by
    simpa [List.mem_filter, hheader] using hplain
  obtain ⟨found, hfound⟩ := exists_find?_iff.mpr ⟨header, hfront, hnames⟩
  rw [plainFirst, List.find?_append, hfound, Option.some_or, Option.some_inj] at hfind
  subst hfind
  have hfalse := (List.mem_filter.mp (List.mem_of_find?_eq_some hfound)).2
  rw [hbrings] at hfalse
  cases hfalse

theorem isSettled_of_inScope
    (h : ∀ others, (∀ header, header ∈ others ↔ header ∈ headers) →
      inScope others included = inScope headers included)
    (hnormal : ∀ file ∈ included, normalizePath file = file) : IsSettled headers included where
  named := by
    intro file hfile hempty hdot header hheader hnames
    by_contra hne
    -- the header once more in front binds the file, and the one without a text in front does not
    have hbound : inScope (header :: headers) included file = true :=
      inScope_iff.mpr ⟨hfile, .inl ⟨header, List.find?_cons_of_pos hnames, hne⟩⟩
    rw [h _ (by simp [hheader]), ← h ([] :: headers) (by simp [hempty])] at hbound
    obtain ⟨-, ⟨first, hfind, hfirst⟩ | ⟨leader, -, -, hfollows⟩⟩ := inScope_iff.mp hbound
    · have hfound : ([] :: headers).find? (namesFile · file) = some [] :=
        List.find?_cons_of_pos hdot
      rw [hfound, Option.some_inj] at hfind
      exact hfirst hfind.symm
    · rw [hfollows.not_namesFile_nil (hnormal file hfile)] at hdot
      cases hdot
  followed := by
    rintro file hfile hnamed leader hleader ⟨header, hheader, hnames, hbrings⟩ hfollows
    have hleads : Leads (header :: headers) leader :=
      ⟨header, List.find?_cons_of_pos hnames, hbrings⟩
    have hbound : inScope (header :: headers) included file = true :=
      inScope_iff.mpr ⟨hfile, .inr ⟨leader, hleader, hleads, hfollows⟩⟩
    rw [h _ (by simp [hheader]), ← h (plainFirst headers) fun _ => mem_plainFirst] at hbound
    obtain ⟨-, ⟨first, hfind, -⟩ | ⟨other, hother, hleads, hfollows⟩⟩ := inScope_iff.mp hbound
    · obtain ⟨found, hfound, hnames⟩ := exists_find?_iff.mp ⟨first, hfind⟩
      exact absurd ⟨found, mem_plainFirst.mp hfound, hnames⟩ hnamed
    · obtain ⟨found, hfound, hnames⟩ := hleads.canLead.isNamed
      exact ⟨other, hother, ⟨found, mem_plainFirst.mp hfound, hnames⟩, hleads.of_plainFirst, hfollows⟩

/-! Directories by their parts. -/

/-- Whether a file is in or below the directory of another. -/
def LiesBelow (leader file : List Char) : Prop :=
  rootSlashes leader = rootSlashes file ∧ ∃ part rest, part ≠ ['.', '.'] ∧
    normalParts file = directoryParts leader ++ part :: rest

/-- Whether a file is elsewhere, though its text begins with the directory of another and a slash. A
directory that is not written at all is taken for the root, and two dots are gone through to climb out
by more of them. -/
def Strays (leader file : List Char) : Prop :=
  (directoryParts leader = [] ∧ rootSlashes leader < rootSlashes file) ∨
    (directoryParts leader ≠ [] ∧ rootSlashes leader = rootSlashes file ∧
      ∃ rest, normalParts file = directoryParts leader ++ ['.', '.'] :: rest)

theorem follows_iff (hleader : normalizePath leader = leader) (hfile : normalizePath file = file) :
    Follows leader file ↔
      (directoryParts leader ≠ [] ∧ LiesBelow leader file) ∨ Strays leader file := by
  have htext := directory_prefix_iff leader file
  rw [hleader, hfile] at htext
  rw [Follows, htext]
  constructor
  · rintro (hnone | ⟨hne, hroot, rest, hrest, hparts⟩)
    · exact .inr (.inl hnone)
    · obtain ⟨part, others, rfl⟩ := List.exists_cons_of_ne_nil hrest
      by_cases hup : part = ['.', '.']
      · subst hup
        exact .inr (.inr ⟨hne, hroot, others, hparts⟩)
      · exact .inl ⟨hne, hroot, part, others, hup, hparts⟩
  · rintro (⟨hne, hroot, part, rest, -, hparts⟩ | hnone | ⟨hne, hroot, rest, hparts⟩)
    · exact .inr ⟨hne, hroot, part :: rest, List.cons_ne_nil _ _, hparts⟩
    · exact .inl hnone
    · exact .inr ⟨hne, hroot, _ :: rest, List.cons_ne_nil _ _, hparts⟩

/-- A header that keeps a directory in its normal form, and no two dots in it, brings in no file from
elsewhere. -/
theorem not_strays (hnames : namesFile header leader = true) (hdirectory : directoryParts header ≠ [])
    (hclimbs : ['.', '.'] ∉ directoryParts header) : ¬ Strays leader file := by
  obtain ⟨front, hfront⟩ := normalParts_of_namesFile hnames
  have hheader : normalParts header ≠ [] := by
    intro hnil
    exact hdirectory (by rw [directoryParts, hnil]; rfl)
  have hleader : directoryParts leader = front ++ directoryParts header := by
    rw [directoryParts, ← hfront, List.dropLast_append_of_ne_nil hheader, directoryParts]
  rintro (⟨hnone, -⟩ | ⟨-, -, rest, hparts⟩)
  · rw [hleader] at hnone
    exact hdirectory (List.append_eq_nil_iff.mp hnone).2
  · -- in front of two dots stand only two dots, so the directory would be made of them
    obtain ⟨part, hpart⟩ := List.exists_mem_of_ne_nil _ hdirectory
    have hnormal := (isNormal_normalParts file).climbs
    rw [hparts, List.pairwise_append] at hnormal
    have hup : part = ['.', '.'] :=
      hnormal.2.2 part (hleader ▸ List.mem_append_right _ hpart) _ List.mem_cons_self rfl
    exact hclimbs (hup ▸ hpart)

/-- Whether a file has a header of its own, or is in or below the directory of a file that a header with
a directory names. -/
def IsWithin (headers included : List (List Char)) (file : List Char) : Prop :=
  IsNamed headers file ∨ ∃ leader ∈ included, CanLead headers leader ∧ LiesBelow leader file

theorem isWithin_of_inScope (hnormal : ∀ file ∈ included, normalizePath file = file)
    (h : inScope headers included file = true) :
    IsWithin headers included file ∨
      ∃ leader ∈ included, Leads headers leader ∧ file ∈ included ∧ Strays leader file := by
  obtain ⟨hfile, ⟨header, hfind, -⟩ | ⟨leader, hleader, hleads, hfollows⟩⟩ := inScope_iff.mp h
  · exact .inl (.inl (exists_find?_iff.mp ⟨header, hfind⟩))
  · rcases (follows_iff (hnormal leader hleader) (hnormal file hfile)).mp hfollows with
      ⟨-, hbelow⟩ | hstrays
    · exact .inl (.inr ⟨leader, hleader, hleads.canLead, hbelow⟩)
    · exact .inr ⟨leader, hleader, hleads, hfile, hstrays⟩

theorem inScope_of_strays (hnormal : ∀ file ∈ included, normalizePath file = file)
    (hleader : leader ∈ included) (hleads : Leads headers leader) (hfile : file ∈ included)
    (h : Strays leader file) : inScope headers included file = true :=
  inScope_iff.mpr ⟨hfile, .inr ⟨leader, hleader, hleads,
    (follows_iff (hnormal leader hleader) (hnormal file hfile)).mpr (.inr h)⟩⟩

end

/-! The bound files. -/

theorem mem_boundFiles {headers included : List String} {file : String} :
    file ∈ boundFiles headers included ↔
      inScope (headers.map String.toList) (included.map (normalizePath ·.toList)) file.toList =
        true := by
  constructor
  · intro hfile
    simp only [boundFiles, List.mem_map (b := file), List.mem_eraseDups, List.mem_filter] at hfile
    obtain ⟨path, ⟨-, hscope⟩, rfl⟩ := hfile
    rwa [String.toList_ofList]
  · intro hscope
    refine List.mem_map.mpr ⟨file.toList, ?_, String.ofList_toList⟩
    rw [List.mem_eraseDups, List.mem_filter]
    exact ⟨(inScope_iff.mp hscope).1, hscope⟩

/-- The paths of the included files in normal form. -/
def normalPaths (included : List String) : List (List Char) :=
  included.map (normalizePath ·.toList)

theorem normalPaths_normal (included : List String) :
    ∀ file ∈ normalPaths included, normalizePath file = file := by
  intro file hfile
  obtain ⟨path, -, rfl⟩ := List.mem_map.mp hfile
  exact normalizePath_normalizePath _

theorem boundFiles_eq_iff {headers others included : List String} :
    boundFiles others included = boundFiles headers included ↔
      inScope (others.map String.toList) (normalPaths included) =
        inScope (headers.map String.toList) (normalPaths included) := by
  constructor
  · intro hbound
    funext file
    have hmem : String.ofList file ∈ boundFiles others included ↔
        String.ofList file ∈ boundFiles headers included := by rw [hbound]
    rw [mem_boundFiles, mem_boundFiles, String.toList_ofList] at hmem
    exact Bool.eq_iff_iff.mpr hmem
  · intro hscope
    rw [normalPaths] at hscope
    simp only [boundFiles, hscope]

theorem mem_iff_mem_map_toList {headers : List String} {header : String} :
    header ∈ headers ↔ header.toList ∈ headers.map String.toList :=
  (List.mem_map_of_injective fun _ _ => String.toList_injective).symm

/-- The order of the headers does not matter to what is bound, and a header that is added takes no file
away, exactly when the headers are settled. -/
theorem boundFiles_order_iff (headers included : List String) :
    ((∀ others : List String, (∀ header, header ∈ others ↔ header ∈ headers) →
        boundFiles others included = boundFiles headers included) ∧
      ∀ before header after,
        (∀ other, other ∈ before ++ header :: after ↔ other ∈ headers) →
        boundFiles (before ++ after) included ⊆ boundFiles (before ++ header :: after) included) ↔
      IsSettled (headers.map String.toList) (normalPaths included) := by
  have hnormal := normalPaths_normal included
  constructor
  · rintro ⟨horder, -⟩
    refine isSettled_of_inScope (fun others hsame => ?_) hnormal
    have hothers : (others.map String.ofList).map String.toList = others := by simp
    have hbound := horder (others.map String.ofList) fun header => by
      rw [mem_iff_mem_map_toList, hothers, hsame, ← mem_iff_mem_map_toList]
    rw [boundFiles_eq_iff, hothers] at hbound
    exact hbound
  · intro hsettled
    have hsame : ∀ {many : List String}, (∀ header, header ∈ many ↔ header ∈ headers) →
        ∀ header, header ∈ many.map String.toList ↔ header ∈ headers.map String.toList := by
      intro many hmany header
      simp only [List.mem_map, hmany]
    refine ⟨fun others hothers => ?_, fun before header after hmany file hfile => ?_⟩
    · rw [boundFiles_eq_iff]
      funext file
      refine Bool.eq_iff_iff.mpr ⟨?_, ?_⟩
      · exact inScope_mono_of_isSettled hsettled hnormal fun _ => (hsame hothers _).mp
      · exact inScope_mono_of_isSettled (hsettled.congr (hsame hothers)) hnormal
          fun _ => (hsame hothers _).mpr
    · rw [mem_boundFiles] at hfile ⊢
      refine inScope_mono_of_isSettled (hsettled.congr (hsame hmany)) hnormal ?_ hfile
      exact List.map_subset _ fun other hother => by
        simp only [List.mem_append, List.mem_cons] at hother ⊢
        tauto

/-- Two headers for one name: the file is named by both, and what its directory has is bound only if the
header with the directory comes first. -/
def utilSettings : Settings :=
  { Settings.default with
    moduleName := .string "M"
    library := .string "m"
    headers := [.string "util.h", .string "lib/util.h"] }

def utilUnit : TranslationUnit :=
  utilSettings.unit [] (.ofFiles [("util.h", ""), ("lib/util.h", "#include \"extra.h\"\n"),
    ("lib/extra.h", "")])

set_option maxRecDepth 100000 in
theorem util_scope_by_order :
    let included := utilUnit.source.includedFiles
    (¬ ∀ headers others : List String, (∀ header, header ∈ others ↔ header ∈ headers) →
        ∀ file, file ∈ boundFiles others included ↔ file ∈ boundFiles headers included) ∧
      ¬ ∀ before header after,
        boundFiles (before ++ after) included ⊆ boundFiles (before ++ header :: after) included := by
  have hfiles : utilUnit.source.includedFiles = ["./util.h", "./lib/util.h", "./lib/extra.h"] := by
    decide +kernel
  rw [hfiles]
  refine ⟨fun horder => ?_, fun hgrow => ?_⟩
  · have hextra := horder ["util.h", "lib/util.h"] ["lib/util.h", "util.h"]
      (by simp [or_comm]) "lib/extra.h"
    exact absurd hextra (by decide)
  · exact absurd (hgrow [] "util.h" ["lib/util.h"] (a := "lib/extra.h") (by decide)) (by decide)

/-- What is bound is named by a header, or in or below the directory of a file that a header with a
directory names, exactly when this is so for every file that strays from one that brings in its
directory. It is so when every header that brings in a directory has one in its normal form, without
two dots. -/
theorem boundFiles_within_iff (headers included : List String) :
    let names := headers.map String.toList
    let files := normalPaths included
    ((∀ file ∈ boundFiles headers included, IsWithin names files file.toList) ↔
        ∀ leader ∈ files, Leads names leader →
          ∀ file ∈ files, Strays leader file → IsWithin names files file) ∧
      ((∀ header ∈ names, bringsDirectory header = true →
          directoryParts header ≠ [] ∧ ['.', '.'] ∉ directoryParts header) →
        ∀ file ∈ boundFiles headers included, IsWithin names files file.toList) := by
  intro names files
  have hnormal := normalPaths_normal included
  have hwithin : (∀ leader ∈ files, Leads names leader →
      ∀ file ∈ files, Strays leader file → IsWithin names files file) →
      ∀ file ∈ boundFiles headers included, IsWithin names files file.toList := by
    intro hstray file hfile
    rcases isWithin_of_inScope hnormal (mem_boundFiles.mp hfile) with
      hwithin | ⟨leader, hleader, hleads, hmem, hstrays⟩
    · exact hwithin
    · exact hstray leader hleader hleads _ hmem hstrays
  refine ⟨⟨fun hbound leader hleader hleads file hfile hstrays => ?_, hwithin⟩, fun hheaders => ?_⟩
  · have hscope := inScope_of_strays hnormal hleader hleads hfile hstrays
    have hfile := hbound (String.ofList file) (mem_boundFiles.mpr (by rwa [String.toList_ofList]))
    rwa [String.toList_ofList] at hfile
  · refine hwithin fun leader _ hleads file _ hstrays => ?_
    obtain ⟨header, hheader, hnames, hbrings⟩ := hleads.canLead
    obtain ⟨hdirectory, hclimbs⟩ := hheaders header hheader hbrings
    exact absurd hstrays (not_strays hnames hdirectory hclimbs)

/-- A header whose directory is cancelled in its normal form. -/
def cancelledSettings : Settings :=
  { Settings.default with
    moduleName := .string "M"
    library := .string "m"
    headers := [.string "inc/../a.h"] }

def cancelledUnit : TranslationUnit :=
  cancelledSettings.unit [] (.ofFiles [("inc/b.h", ""), ("a.h", "#include \"/dev/null\"\n")])

set_option maxRecDepth 100000 in
theorem absolute_file_bound :
    let included := normalPaths cancelledUnit.source.includedFiles
    ¬ ∀ file ∈ cancelledSettings.boundFiles cancelledUnit.source,
      IsWithin ["inc/../a.h".toList] included file.toList := by
  have hfiles : cancelledUnit.source.includedFiles = ["./inc/../a.h", "/dev/null"] := by
    decide +kernel
  have hbound : "/dev/null" ∈ cancelledSettings.boundFiles cancelledUnit.source := by
    rw [Settings.boundFiles, hfiles]
    decide
  rw [hfiles]
  intro included hwithin
  rcases hwithin _ hbound with ⟨header, hheader, hnames⟩ | ⟨leader, hleader, hcan, hbelow⟩
  · rw [List.mem_singleton.mp hheader] at hnames
    exact absurd hnames (by decide)
  · have hincluded : included = ["a.h".toList, "/dev/null".toList] := by decide
    rw [hincluded] at hleader
    obtain rfl | rfl : leader = "a.h".toList ∨ leader = "/dev/null".toList := by simpa using hleader
    · exact absurd hbelow.1 (by decide)
    · obtain ⟨header, hheader, hnames, -⟩ := hcan
      rw [List.mem_singleton.mp hheader] at hnames
      exact absurd hnames (by decide)

end HeaderBindings
