import Mathlib.Data.List.Induction
import StagedRun.Path.Absolute
import StagedRun.Proofs.Path.Components
import StagedRun.Proofs.Text.WellFormed

/-!
# Absolute paths

`Path.assemble` puts a path together from a base that its names are counted from, the names, and
whether it ends in a separator.  Every absolute path is assembled at one or two separators: from the
root directory on, or from a current directory in the form in which a system reports one
(`Path.IsCanonical`).

Joining a name keeps the base of a path and adds to its names (`Path.base_join`, `Path.names_join`).
So an assembled path shows the parts that it was assembled from, and making it absolute again
changes nothing (`Path.absolute_absolute`).  Nothing is assembled but parts of texts, so the absolute
path of a text is a text (`Path.isUtf8_absolute`).
-/

namespace StagedRun

namespace Path

lemma bytes_ne_nil_of_isAbsolute {path : Path} (h : path.isAbsolute = true) : path.bytes ≠ [] := by
  intro hbytes
  simp [isAbsolute, hbytes] at h

/-! ## What joining keeps -/

/-- How many separators a text starts with is settled before a separator that follows something
else. -/
lemma hasDoubleRoot_append_separator {front : ByteString} (hne : front ≠ [])
    (hend : (⟨front⟩ : Path).endsInSeparator = false) (back : ByteString) :
    (⟨front ++ separator :: back⟩ : Path).hasDoubleRoot = (⟨front⟩ : Path).hasDoubleRoot := by
  match front, hne with
  | [a], _ =>
    have ha : a ≠ separator := by simpa [endsInSeparator] using hend
    simp [hasDoubleRoot, ha]
  | [a, b], _ =>
    have hb : b ≠ separator := by simpa [endsInSeparator] using hend
    simp [hasDoubleRoot, hb]
  | a :: b :: c :: rest, _ => rfl

lemma hasDoubleRoot_join {path : Path} (hne : path.bytes ≠ []) {name : ByteString}
    (h : IsNaming name) : (path.join ⟨name⟩).hasDoubleRoot = path.hasDoubleRoot := by
  rcases path.join_cases h with ⟨hbytes, _⟩ | ⟨_, hend, hjoin⟩ | ⟨front, hbytes, hjoin⟩
  · exact absurd hbytes hne
  · rw [hjoin, hasDoubleRoot_append_separator hne hend]
  · have hpath : path = ⟨front ++ [separator]⟩ := congrArg Path.mk hbytes
    obtain ⟨first, rest, rfl, hfirst⟩ := h.exists_cons
    rw [hjoin, hpath]
    match front with
    | [] => simp [hasDoubleRoot, hfirst]
    | [a] => simp [hasDoubleRoot, bne, hfirst]
    | [a, b] => rfl
    | a :: b :: c :: rest => rfl

lemma base_join {path : Path} (hne : path.bytes ≠ []) (current : Path) {name : ByteString}
    (h : IsNaming name) : (path.join ⟨name⟩).base current = path.base current := by
  rw [base, base, isAbsolute_join path h, hasDoubleRoot_join hne h]

/-- A separator that is put at the end is nothing new, or it comes after something else. -/
lemma join_nil_cases (path : Path) :
    path.join ⟨[]⟩ = path ∧ (path.bytes = [] ∨ path.endsInSeparator = true) ∨
      path.bytes ≠ [] ∧ path.endsInSeparator = false ∧
        path.join ⟨[]⟩ = ⟨path.bytes ++ [separator]⟩ := by
  have hrelative : (⟨[]⟩ : Path).isAbsolute = false := rfl
  rw [join, hrelative]
  by_cases h : (path.isEmpty || path.endsInSeparator) = true
  · exact .inl ⟨by simp [h], by simpa [isEmpty] using h⟩
  · have hne : path.bytes ≠ [] := fun hbytes => by simp [isEmpty, hbytes] at h
    exact .inr ⟨hne, by simp_all, by simp [h]⟩

lemma names_join_nil (path : Path) : (path.join ⟨[]⟩).names = path.names := by
  rcases path.join_nil_cases with ⟨hsame, _⟩ | ⟨_, _, hjoin⟩
  · rw [hsame]
  · rw [hjoin, names_append_separator]
    exact List.append_nil _

lemma isAbsolute_join_nil (path : Path) : (path.join ⟨[]⟩).isAbsolute = path.isAbsolute := by
  rcases path.join_nil_cases with ⟨hsame, _⟩ | ⟨hne, _, hjoin⟩
  · rw [hsame]
  · obtain ⟨first, rest, hbytes⟩ := List.exists_cons_of_ne_nil hne
    rw [hjoin, isAbsolute, isAbsolute, hbytes]
    rfl

lemma base_join_nil (path current : Path) : (path.join ⟨[]⟩).base current = path.base current := by
  rw [base, base, isAbsolute_join_nil]
  rcases path.join_nil_cases with ⟨hsame, _⟩ | ⟨hne, hend, hjoin⟩
  · rw [hsame]
  · rw [hjoin, hasDoubleRoot_append_separator hne hend]

lemma endsInSeparator_join_nil {path : Path} (h : path.bytes ≠ []) :
    (path.join ⟨[]⟩).endsInSeparator = true := by
  rcases path.join_nil_cases with ⟨hsame, hend⟩ | ⟨_, _, hjoin⟩
  · rw [hsame]
    exact hend.resolve_left h
  · exact endsInSeparator_iff.2 ⟨path.bytes, congrArg bytes hjoin⟩

lemma join_nil_of_endsInSeparator {path : Path} (h : path.endsInSeparator = true) :
    path.join ⟨[]⟩ = path := by
  rcases path.join_nil_cases with ⟨hsame, _⟩ | ⟨_, hend, _⟩
  · exact hsame
  · rw [h] at hend
    cases hend

/-! ## Assembled paths -/

/-- The path with these names, counted from a base, that ends in a separator if it is `trailing`. -/
def assemble (base : Path) (names : List ByteString) (trailing : Bool) : Path :=
  let named := names.foldl (fun path name => path.join ⟨name⟩) base
  if trailing then named.join ⟨[]⟩ else named

lemma absolute_eq (path current : Path) :
    path.absolute current = assemble (path.base current) path.names path.endsInSeparator := rfl

lemma assemble_true (base : Path) (names : List ByteString) :
    assemble base names true = (assemble base names false).join ⟨[]⟩ := by
  simp [assemble]

lemma assemble_concat (base : Path) (names : List ByteString) (name : ByteString) :
    assemble base (names ++ [name]) false = (assemble base names false).join ⟨name⟩ := by
  simp [assemble]

lemma assemble_append (base : Path) (names more : List ByteString) (trailing : Bool) :
    assemble (assemble base names false) more trailing = assemble base (names ++ more) trailing := by
  simp [assemble]

section Assembled

variable {base : Path} {names : List ByteString}

/-- What holds of a base, and still holds after a name or a separator is joined, holds of every path
that is assembled at the base. -/
lemma assemble_induction {motive : List ByteString → Path → Prop} (hbase : motive [] base)
    (hname : ∀ above path name, IsNaming name → motive above path →
      motive (above ++ [name]) (path.join ⟨name⟩))
    (hnil : ∀ above path, motive above path → motive above (path.join ⟨[]⟩))
    (hnames : ∀ name ∈ names, IsNaming name) (trailing : Bool) :
    motive names (assemble base names trailing) := by
  have hnamed : motive names (assemble base names false) := by
    induction names using List.reverseRecOn with
    | nil => exact hbase
    | append_singleton above name ih =>
      obtain ⟨habove, hlast⟩ := List.forall_mem_append.1 hnames
      rw [assemble_concat]
      exact hname above _ name (hlast name List.mem_cons_self) (ih habove)
  cases trailing with
  | false => exact hnamed
  | true =>
    rw [assemble_true]
    exact hnil names _ hnamed

/-- An assembled path has the names that it was assembled from. -/
lemma names_assemble (base : Path) (hnames : ∀ name ∈ names, IsNaming name) (trailing : Bool) :
    (assemble base names trailing).names = base.names ++ names :=
  assemble_induction (motive := fun above path => path.names = base.names ++ above)
    (List.append_nil _).symm
    (fun _ path _ hname ih => by rw [names_join path hname, ih, List.append_assoc])
    (fun _ path ih => by rw [names_join_nil, ih]) hnames trailing

lemma isAbsolute_assemble (hbase : base.isAbsolute = true) (hnames : ∀ name ∈ names, IsNaming name)
    (trailing : Bool) : (assemble base names trailing).isAbsolute = true :=
  assemble_induction (motive := fun _ path => path.isAbsolute = true) hbase
    (fun _ path _ hname ih => by rw [isAbsolute_join path hname, ih])
    (fun _ path ih => by rw [isAbsolute_join_nil, ih]) hnames trailing

/-- An assembled path is counted from its base. -/
lemma base_assemble (hbase : base.isAbsolute = true) (hnames : ∀ name ∈ names, IsNaming name)
    (trailing : Bool) (current : Path) :
    (assemble base names trailing).base current = base.base current := by
  have hboth : (assemble base names trailing).isAbsolute = true ∧
      (assemble base names trailing).base current = base.base current :=
    assemble_induction
      (motive := fun _ path => path.isAbsolute = true ∧ path.base current = base.base current)
      ⟨hbase, rfl⟩
      (fun _ path _ hname ih => ⟨by rw [isAbsolute_join path hname, ih.1],
        by rw [base_join (bytes_ne_nil_of_isAbsolute ih.1) current hname, ih.2]⟩)
      (fun _ path ih => ⟨by rw [isAbsolute_join_nil, ih.1], by rw [base_join_nil, ih.2]⟩)
      hnames trailing
  exact hboth.2

/-- An assembled path that does not end in a separator as it should has no names, and its base is
all of it. -/
lemma assemble_endsInSeparator (hbase : base.isAbsolute = true)
    (hend : base.endsInSeparator = true) (hnames : ∀ name ∈ names, IsNaming name)
    (trailing : Bool) :
    assemble base names (assemble base names trailing).endsInSeparator =
      assemble base names trailing := by
  cases trailing with
  | true =>
    have hne := bytes_ne_nil_of_isAbsolute (isAbsolute_assemble hbase hnames false)
    rw [assemble_true, endsInSeparator_join_nil hne, assemble_true]
  | false =>
    rcases names.eq_nil_or_concat with rfl | ⟨above, name, rfl⟩
    · have hsame : base.join ⟨[]⟩ = base := join_nil_of_endsInSeparator hend
      simp [assemble, hend, hsame]
    · have hname : IsNaming name := hnames name (by simp)
      rw [List.concat_eq_append, assemble_concat, endsInSeparator_join _ hname, assemble_concat]

end Assembled

/-! ## The two roots -/

/-- The two separators that a system may give a meaning of its own. -/
def doubleRoot : Path := ⟨[separator, separator]⟩

/-- What the names of an absolute path are counted from. -/
inductive IsBase : Path → Prop
  | root : IsBase root
  | doubleRoot : IsBase doubleRoot

namespace IsBase

variable {base : Path}

lemma names (h : IsBase base) : base.names = [] := by
  cases h <;> rfl

lemma isAbsolute (h : IsBase base) : base.isAbsolute = true := by
  cases h <;> rfl

lemma endsInSeparator (h : IsBase base) : base.endsInSeparator = true := by
  cases h <;> rfl

lemma base_eq (h : IsBase base) (current : Path) : base.base current = base := by
  cases h <;> rfl

lemma isUtf8 (h : IsBase base) : base.isUtf8 = true := by
  cases h <;> decide

end IsBase

lemma isBase_base {path : Path} (h : path.isAbsolute = true) (current : Path) :
    IsBase (path.base current) := by
  rw [base, if_pos h]
  split
  · exact .doubleRoot
  · exact .root

lemma base_of_isAbsolute {path : Path} (h : path.isAbsolute = true) (current other : Path) :
    path.base current = path.base other := by
  rw [base, base, if_pos h, if_pos h]

/-- An absolute path means the same wherever it is seen from. -/
lemma absolute_of_isAbsolute {path : Path} (h : path.isAbsolute = true) (current other : Path) :
    path.absolute current = path.absolute other := by
  rw [absolute_eq, absolute_eq, base_of_isAbsolute h current other]

/-- An absolute path has the names that it is made from. -/
lemma names_absolute (path current : Path) : (path.absolute current).names =
    (if path.isAbsolute then [] else current.names) ++ path.names := by
  rw [absolute_eq, names_assemble _ fun name hmem => isNaming_of_mem_names hmem]
  by_cases h : path.isAbsolute = true
  · rw [(isBase_base h current).names, if_pos h]
  · rw [base, if_neg h, if_neg h]

/-- A path that is assembled at a root is its own absolute path. -/
lemma absolute_assemble {base : Path} (hbase : IsBase base) {names : List ByteString}
    (hnames : ∀ name ∈ names, IsNaming name) (trailing : Bool) (current : Path) :
    (assemble base names trailing).absolute current = assemble base names trailing := by
  rw [absolute_eq, names_assemble base hnames, hbase.names, List.nil_append,
    base_assemble hbase.isAbsolute hnames, hbase.base_eq,
    assemble_endsInSeparator hbase.isAbsolute hbase.endsInSeparator hnames]

/-! ## Paths as a system reports them -/

/-- A path in the form in which a system reports its directories: the root, or plain names after
one separator each. -/
def IsCanonical (path : Path) : Prop :=
  path = root ∨ path.anchor = .root ∧ ∀ segment ∈ path.segments, IsPlain segment

instance (path : Path) : Decidable path.IsCanonical :=
  inferInstanceAs (Decidable (_ ∨ _))

/-- A path that is assembled at the root is its names after one separator each. -/
lemma assemble_root {names : List ByteString} (hnames : ∀ name ∈ names, IsNaming name) :
    assemble root names false = ofParts .root names := by
  induction names using List.reverseRecOn with
  | nil => rfl
  | append_singleton above name ih =>
    obtain ⟨habove, hlast⟩ := List.forall_mem_append.1 hnames
    have hname : IsNaming name := hlast name List.mem_cons_self
    rw [assemble_concat]
    rcases above.eq_nil_or_concat with rfl | ⟨front, last, rfl⟩
    · exact congrArg Path.mk (join_bytes root hname)
    · rw [List.concat_eq_append] at habove ih ⊢
      have hend : (assemble root (front ++ [last]) false).endsInSeparator = false := by
        rw [assemble_concat]
        exact endsInSeparator_join _ (habove last List.mem_concat_self)
      rw [ih habove] at hend ⊢
      rcases (ofParts .root (front ++ [last])).join_cases hname with
        ⟨hbytes, _⟩ | ⟨_, _, hjoin⟩ | ⟨rest, hbytes, _⟩
      · cases hbytes
      · have happend : ofParts .root ((front ++ [last]) ++ [name]) = _ :=
          ofParts_append .root (by simp) (by simp)
        rw [hjoin, happend]
        rfl
      · rw [endsInSeparator_iff.2 ⟨rest, hbytes⟩] at hend
        cases hend

/-- What the system reports is assembled at the root from plain names. -/
lemma IsCanonical.exists_assemble {path : Path} (h : path.IsCanonical) :
    ∃ names, (∀ name ∈ names, IsPlain name) ∧ path = assemble root names false := by
  rcases h with rfl | ⟨hanchor, hplain⟩
  · exact ⟨[], by simp, rfl⟩
  · refine ⟨path.segments, hplain, ?_⟩
    rw [assemble_root fun name hmem => (hplain name hmem).isNaming, ← hanchor,
      ofParts_anchor_segments]

/-- Every absolute path is assembled at a root, if the current directory is canonical. -/
lemma exists_absolute_eq (path : Path) {current : Path} (h : current.IsCanonical) :
    ∃ base names trailing, IsBase base ∧ (∀ name ∈ names, IsNaming name) ∧
      path.absolute current = assemble base names trailing := by
  have hnames : ∀ name ∈ path.names, IsNaming name := fun name hmem => isNaming_of_mem_names hmem
  by_cases habsolute : path.isAbsolute = true
  · exact ⟨path.base current, path.names, path.endsInSeparator, isBase_base habsolute current,
      hnames, path.absolute_eq current⟩
  · obtain ⟨above, habove, hcurrent⟩ := h.exists_assemble
    refine ⟨root, above ++ path.names, path.endsInSeparator, .root,
      List.forall_mem_append.2 ⟨fun name hmem => (habove name hmem).isNaming, hnames⟩, ?_⟩
    rw [absolute_eq, base, if_neg habsolute, hcurrent, assemble_append]

theorem isAbsolute_absolute (path : Path) {current : Path} (h : current.IsCanonical) :
    (path.absolute current).isAbsolute = true := by
  obtain ⟨base, names, trailing, hbase, hnames, habsolute⟩ := exists_absolute_eq path h
  rw [habsolute, isAbsolute_assemble hbase.isAbsolute hnames]

/-- Making an absolute path absolute once more changes nothing. -/
theorem absolute_absolute (path : Path) {current : Path} (h : current.IsCanonical) (other : Path) :
    (path.absolute current).absolute other = path.absolute current := by
  obtain ⟨base, names, trailing, hbase, hnames, habsolute⟩ := exists_absolute_eq path h
  rw [habsolute, absolute_assemble hbase hnames]

/-! ## Components of absolute paths -/

lemma isAbsolute_iff_anchor {path : Path} : path.isAbsolute = true ↔ path.anchor = .root := by
  rw [isAbsolute, anchor]
  rcases path.bytes with _ | ⟨b, _ | ⟨c, rest⟩⟩
  · simp [anchorOf]
  · by_cases hb : b = separator
    · simp [anchorOf, hb]
    · by_cases hdot : b = dot <;> simp [anchorOf, hb, hdot]
  · by_cases hb : b = separator
    · simp [anchorOf, hb]
    · by_cases hdot : b = dot ∧ c = separator <;> simp [anchorOf, hb, hdot]

/-- The paths that start at the root directory are those whose first component it is. -/
lemma isAbsolute_iff_components {path : Path} :
    path.isAbsolute = true ↔ path.components.head? = some .root := by
  rw [isAbsolute_iff_anchor, components]
  cases path.anchor with
  | bare => simp [Anchor.components, componentOf_ne_root]
  | root => simp [Anchor.components]
  | here => simp [Anchor.components]

/-- The directory that holds what an absolute path names is named by an absolute path. -/
lemma isAbsolute_of_enclosing? {path directory : Path} (h : path.enclosing? = some directory)
    (habsolute : path.isAbsolute = true) : directory.isAbsolute = true := by
  obtain ⟨hcomponents, hne⟩ := components_of_enclosing? h
  rw [isAbsolute_iff_components] at habsolute ⊢
  rw [hcomponents] at hne ⊢
  rw [← habsolute, List.dropLast_eq_take, List.head?_take, if_neg]
  intro hzero
  rw [List.dropLast_eq_take, hzero, List.take_zero] at hne
  exact hne rfl

/-- What the system reports is the root directory and then one component for each name. -/
lemma IsCanonical.exists_components {path : Path} (h : path.IsCanonical) :
    ∃ names, (∀ name ∈ names, IsPlain name) ∧ path = assemble root names false ∧
      path.isAbsolute = true ∧ path.components.length = names.length + 1 := by
  obtain ⟨names, hplain, rfl⟩ := h.exists_assemble
  have hnaming : ∀ name ∈ names, IsNaming name := fun name hmem => (hplain name hmem).isNaming
  have habsolute := isAbsolute_assemble IsBase.root.isAbsolute hnaming false
  refine ⟨names, hplain, rfl, habsolute, ?_⟩
  rw [components, isAbsolute_iff_anchor.1 habsolute, names_assemble root hnaming, IsBase.root.names]
  simp [Anchor.components]

/-- Whether a path names an entry of the root directory. -/
def LiesInRoot (path : Path) : Prop :=
  ∃ name, IsPlain name ∧ path = root.join ⟨name⟩

lemma LiesInRoot.length_components {path : Path} (h : path.LiesInRoot) :
    path.components.length = 2 := by
  obtain ⟨name, hplain, rfl⟩ := h
  rw [components_join root hplain.isNaming, components_root]
  rfl

lemma IsCanonical.liesInRoot {path : Path} (h : path.IsCanonical)
    (hlength : path.components.length = 2) : path.LiesInRoot := by
  obtain ⟨names, hplain, hpath, _, hcount⟩ := h.exists_components
  obtain ⟨name, rfl⟩ := List.length_eq_one_iff.1 (by omega : names.length = 1)
  exact ⟨name, hplain name List.mem_cons_self, hpath⟩

lemma IsCanonical.two_le_length {path : Path} (h : path.IsCanonical) (hne : path ≠ root) :
    2 ≤ path.components.length := by
  obtain ⟨names, _, hpath, _, hcount⟩ := h.exists_components
  have hnames : names ≠ [] := by
    rintro rfl
    exact hne hpath
  have := List.length_pos_iff.2 hnames
  omega

lemma IsCanonical.isAbsolute {path : Path} (h : path.IsCanonical) : path.isAbsolute = true := by
  obtain ⟨_, _, _, habsolute, _⟩ := h.exists_components
  exact habsolute

/-- An absolute path is what was meant: the path itself, or what it names in the current directory. -/
theorem components_absolute (path : Path) {current : Path} (h : current.IsCanonical) :
    (path.absolute current).components =
      (if path.isAbsolute then [.root] else current.components) ++ path.names.map componentOf := by
  have hanchor := isAbsolute_iff_anchor.1 (isAbsolute_absolute path h)
  have hcurrent := isAbsolute_iff_anchor.1 h.isAbsolute
  rw [components, components, hanchor, hcurrent, names_absolute]
  by_cases habsolute : path.isAbsolute = true
  · simp [habsolute, Anchor.components]
  · simp [habsolute]

/-! ## Texts -/

lemma isUtf8_of_mem_unsplit {segments : List ByteString}
    (h : Text.isUtf8 (unsplit segments) = true) {segment : ByteString} (hmem : segment ∈ segments) :
    Text.isUtf8 segment = true := by
  induction segments with
  | nil => cases hmem
  | cons first more ih =>
    cases more with
    | nil =>
      rw [List.mem_singleton.1 hmem]
      exact h
    | cons next rest =>
      obtain ⟨hfirst, hrest⟩ := Text.isUtf8_of_append_cons (by decide) h
      rcases List.mem_cons.1 hmem with rfl | hmem
      · exact hfirst
      · exact ih hrest hmem

lemma isUtf8_of_mem_names {path : Path} (h : path.isUtf8 = true) {name : ByteString}
    (hmem : name ∈ path.names) : Text.isUtf8 name = true := by
  have hsegments : Text.isUtf8 (unsplit (split path.bytes)) = true := by rwa [unsplit_split]
  rw [names_eq] at hmem
  exact isUtf8_of_mem_unsplit hsegments (List.mem_of_mem_filter hmem)

lemma isUtf8_join {path other : Path} (h : path.isUtf8 = true) (h' : other.isUtf8 = true) :
    (path.join other).isUtf8 = true := by
  have hseparator : Text.isUtf8 [separator] = true := by decide
  rw [join]
  split
  · exact h'
  · split
    · exact Text.isUtf8_append h h'
    · exact Text.isUtf8_append h (Text.isUtf8_append hseparator h')

/-- The absolute path of a text is a text. -/
theorem isUtf8_absolute {path current : Path} (h : path.isUtf8 = true)
    (hcurrent : current.isUtf8 = true) : (path.absolute current).isUtf8 = true := by
  have hbase : (path.base current).isUtf8 = true := by
    by_cases habsolute : path.isAbsolute = true
    · exact (isBase_base habsolute current).isUtf8
    · rwa [base, if_neg habsolute]
  exact assemble_induction
    (motive := fun names path => (∀ name ∈ names, Text.isUtf8 name = true) → path.isUtf8 = true)
    (fun _ => hbase)
    (fun above path name _ ih hnames =>
      isUtf8_join (ih fun name hmem => hnames name (List.mem_append_left _ hmem))
        (hnames name List.mem_concat_self))
    (fun _ path ih hnames => isUtf8_join (ih hnames) (by decide))
    (fun name hmem => isNaming_of_mem_names hmem) path.endsInSeparator
    (fun name hmem => isUtf8_of_mem_names h hmem)

end Path

end StagedRun
