import ReleaseStamp.FileTree.Listing
import ReleaseStamp.Proofs.Path

/-!
# Nodes by place

A tree is known by what is found at its places: a file with its bytes, a link with its target, or a
folder. Putting a file or an empty folder changes this at one place only, and two trees whose
folders list their names in order are the same when it is the same at every place.
-/
namespace ReleaseStamp.FileTree

open ReleaseStamp.Path (IsName)

mutual

/-- Folders list names, in order and each once. -/
def Node.Proper : Node → Prop
  | .file _ => True
  | .link _ => True
  | .folder children => ProperChildren children

def ProperChildren : List (Path × Node) → Prop
  | [] => True
  | (name, node) :: rest =>
    IsName name ∧ (∀ child ∈ rest, name < child.1) ∧ node.Proper ∧ ProperChildren rest

end

mutual

def Node.Linkless : Node → Prop
  | .file _ => True
  | .link _ => False
  | .folder children => LinklessChildren children

def LinklessChildren : List (Path × Node) → Prop
  | [] => True
  | (_, node) :: rest => node.Linkless ∧ LinklessChildren rest

end

def Node.contentAt (root : Node) (place : Place) : Option Content :=
  (root.get? place).map Node.content

theorem Node.get?_nil (root : Node) : root.get? [] = some root := by
  cases root <;> rfl

theorem Node.get?_folder (children : List (Path × Node)) (name : Path) (rest : Place) :
    (Node.folder children).get? (name :: rest) = (children.lookup name).bind (·.get? rest) := rfl

theorem Node.get?_append (root : Node) (place rest : Place) :
    root.get? (place ++ rest) = (root.get? place).bind (·.get? rest) := by
  induction place generalizing root with
  | nil => rw [List.nil_append, get?_nil, Option.bind_some]
  | cons name place ih =>
    cases root with
    | file => rfl
    | link => rfl
    | folder children =>
      rw [List.cons_append, get?_folder, get?_folder]
      cases children.lookup name with
      | none => rfl
      | some child => simp only [Option.bind_some, ih]

/-- Above everything stands a folder. -/
theorem Node.get?_concat {root node : Node} {place : Place} {name : Path}
    (h : root.get? (place ++ [name]) = some node) :
    ∃ children, root.get? place = some (.folder children) ∧ children.lookup name = some node := by
  rw [get?_append] at h
  cases hplace : root.get? place with
  | none => simp [hplace] at h
  | some above =>
    rw [hplace, Option.bind_some] at h
    cases above with
    | file => cases h
    | link => cases h
    | folder children =>
      refine ⟨children, rfl, ?_⟩
      rw [get?_folder] at h
      cases hchild : children.lookup name with
      | none => simp [hchild] at h
      | some child => simpa [hchild, get?_nil] using h

theorem Node.get?_child {root node : Node} {name : Path} (h : root.get? [name] = some node) :
    ∃ children, root = .folder children ∧ children.lookup name = some node := by
  obtain ⟨children, hroot, hchild⟩ := @get?_concat root node [] name h
  rw [get?_nil] at hroot
  cases hroot
  exact ⟨children, rfl, hchild⟩

/-- Below a node that is no folder there is nothing. -/
theorem Node.get?_cons_of_not_folder {node : Node} (h : node.isFolder = false) (name : Path)
    (rest : Place) : node.get? (name :: rest) = none := by
  cases node with
  | file => rfl
  | link => rfl
  | folder => cases h

theorem Node.contentAt_folder {root : Node} {place : Place} :
    root.contentAt place = some .folder ↔
      ∃ children, root.get? place = some (.folder children) := by
  rw [contentAt, Option.map_eq_some_iff]
  constructor
  · rintro ⟨node, hnode, hcontent⟩
    cases node with
    | file => cases hcontent
    | link => cases hcontent
    | folder children => exact ⟨children, hnode⟩
  · rintro ⟨children, hplace⟩
    exact ⟨_, hplace, rfl⟩

theorem Node.contentAt_file {root : Node} {place : Place} {bytes : ByteArray} :
    root.contentAt place = some (.file bytes) ↔ root.get? place = some (.file bytes) := by
  rw [contentAt, Option.map_eq_some_iff]
  constructor
  · rintro ⟨node, hnode, hcontent⟩
    cases node with
    | file => cases hcontent; exact hnode
    | link => cases hcontent
    | folder => cases hcontent
  · intro hplace
    exact ⟨_, hplace, rfl⟩

theorem Node.contentAt_link {root : Node} {place : Place} {target : Path} :
    root.contentAt place = some (.link target) ↔ root.get? place = some (.link target) := by
  rw [contentAt, Option.map_eq_some_iff]
  constructor
  · rintro ⟨node, hnode, hcontent⟩
    cases node with
    | file => cases hcontent
    | link => cases hcontent; exact hnode
    | folder => cases hcontent
  · intro hplace
    exact ⟨_, hplace, rfl⟩

theorem Node.contentAt_none {root : Node} {place : Place} :
    root.contentAt place = none ↔ root.get? place = none := by
  rw [contentAt, Option.map_eq_none_iff]

theorem ProperChildren.lookup {children : List (Path × Node)} (h : ProperChildren children)
    {name : Path} {node : Node} (hname : children.lookup name = some node) :
    IsName name ∧ node.Proper := by
  induction children with
  | nil => cases hname
  | cons child rest ih =>
    obtain ⟨other, found⟩ := child
    obtain ⟨hother, _, hfound, hrest⟩ := h
    rw [List.lookup_cons] at hname
    split at hname
    · rename_i hsame
      cases hname
      rw [beq_iff_eq] at hsame
      exact ⟨hsame ▸ hother, hfound⟩
    · exact ih hrest hname

theorem Node.Proper.get? {root node : Node} (h : root.Proper) {place : Place}
    (hplace : root.get? place = some node) : node.Proper := by
  induction place generalizing root with
  | nil =>
    rw [Node.get?_nil] at hplace
    cases hplace
    exact h
  | cons name place ih =>
    cases root with
    | file => cases hplace
    | link => cases hplace
    | folder children =>
      rw [Node.get?_folder] at hplace
      obtain ⟨child, hchild, hplace⟩ := Option.bind_eq_some_iff.mp hplace
      exact ih (ProperChildren.lookup h hchild).2 hplace

theorem Node.Proper.isName {root node : Node} (h : root.Proper) {place : Place}
    (hplace : root.get? place = some node) : ∀ name ∈ place, IsName name := by
  induction place generalizing root with
  | nil =>
    intro name hname
    cases hname
  | cons first place ih =>
    cases root with
    | file => cases hplace
    | link => cases hplace
    | folder children =>
      rw [Node.get?_folder] at hplace
      obtain ⟨child, hchild, hplace⟩ := Option.bind_eq_some_iff.mp hplace
      obtain ⟨hfirst, hproper⟩ := ProperChildren.lookup h hchild
      exact List.forall_mem_cons.mpr ⟨hfirst, ih hproper hplace⟩

theorem mem_putChild {name : Path} {node : Node} {children : List (Path × Node)}
    {child : Path × Node} (h : child ∈ Node.putChild name node children) :
    child = (name, node) ∨ child ∈ children := by
  induction children with
  | nil => simpa [Node.putChild] using h
  | cons first rest ih =>
    obtain ⟨other, found⟩ := first
    unfold Node.putChild at h
    split at h
    · rcases List.mem_cons.mp h with h | h
      · exact Or.inl h
      · exact Or.inr (List.mem_cons_of_mem _ h)
    · split at h
      · rcases List.mem_cons.mp h with h | h
        · exact Or.inl h
        · exact Or.inr h
      · rcases List.mem_cons.mp h with h | h
        · exact Or.inr (h ▸ List.mem_cons_self)
        · exact (ih h).imp_right (List.mem_cons_of_mem _)

theorem ProperChildren.putChild {children : List (Path × Node)} (h : ProperChildren children)
    {name : Path} (hname : IsName name) {node : Node} (hnode : node.Proper) :
    ProperChildren (Node.putChild name node children) := by
  induction children with
  | nil => exact ⟨hname, by simp, hnode, trivial⟩
  | cons first rest ih =>
    obtain ⟨other, found⟩ := first
    obtain ⟨hother, hless, hfound, hrest⟩ := h
    unfold Node.putChild
    split
    · rename_i hsame
      exact ⟨hname, hsame ▸ hless, hnode, hrest⟩
    · rename_i hdiffers
      split
      · rename_i hbefore
        refine ⟨hname, ?_, hnode, hother, hless, hfound, hrest⟩
        intro child hchild
        rcases List.mem_cons.mp hchild with rfl | hchild
        · exact hbefore
        · exact Path.lt_trans hbefore (hless child hchild)
      · rename_i hafter
        refine ⟨hother, ?_, hfound, ih hrest⟩
        intro child hchild
        rcases mem_putChild hchild with rfl | hchild
        · exact (Path.lt_or_lt_of_ne hdiffers).resolve_left hafter
        · exact hless child hchild

theorem Node.put_name (children : List (Path × Node)) (new : Node) (name : Path) :
    (Node.folder children).put new [name] = .folder (Node.putChild name new children) := rfl

theorem Node.put_concat {children : List (Path × Node)} {name : Path} {child : Node}
    (h : children.lookup name = some child) (new : Node) (place : Place) (last : Path) :
    (Node.folder children).put new (name :: (place ++ [last])) =
      .folder (Node.putChild name (child.put new (place ++ [last])) children) := by
  cases place with
  | nil => simp [Node.put, h]
  | cons next place => simp [Node.put, h]

theorem Node.put_eq_self {root : Node} {start : Path} (h : root.get? [start] = none) (new : Node)
    (place : Place) (last : Path) : root.put new (start :: (place ++ [last])) = root := by
  cases root with
  | file => cases place <;> rfl
  | link => cases place <;> rfl
  | folder children =>
    have hchild : children.lookup start = none := by
      cases hchild : children.lookup start with
      | none => rfl
      | some child => simp [get?_folder, hchild, get?_nil] at h
    cases place <;> simp [put, hchild]

def Node.IsLeaf (node : Node) : Prop := (∃ bytes, node = .file bytes) ∨ node = .folder []

theorem Node.IsLeaf.get?_cons {node : Node} (h : node.IsLeaf) (name : Path) (rest : Place) :
    node.get? (name :: rest) = none := by
  rcases h with ⟨bytes, rfl⟩ | rfl <;> rfl

theorem Node.IsLeaf.proper {node : Node} (h : node.IsLeaf) : node.Proper := by
  rcases h with ⟨bytes, rfl⟩ | rfl <;> trivial

theorem Node.IsLeaf.linkless {node : Node} (h : node.IsLeaf) : node.Linkless := by
  rcases h with ⟨bytes, rfl⟩ | rfl <;> trivial

/-- A leaf that is put into a folder, for nothing, a file or a link, is all that changes. -/
theorem Node.contentAt_put {root new : Node} (hnew : new.IsLeaf) {place : Place} {name : Path}
    (habove : root.contentAt place = some .folder)
    (hold : root.contentAt (place ++ [name]) ≠ some .folder) (other : Place) :
    (root.put new (place ++ [name])).contentAt other =
      if other = place ++ [name] then some new.content else root.contentAt other := by
  induction place generalizing root other with
  | nil =>
    obtain ⟨children, habove⟩ := contentAt_folder.mp habove
    rw [get?_nil] at habove
    cases habove
    rw [List.nil_append, put_name]
    cases other with
    | nil => simp [contentAt, get?_nil, content]
    | cons first rest =>
      rw [contentAt, contentAt, get?_folder, get?_folder, lookup_putChild]
      by_cases hfirst : first = name
      · subst hfirst
        cases rest with
        | nil => simp [get?_nil]
        | cons next rest =>
          -- Below the leaf is nothing, and below what it replaces was nothing.
          have hbelow : (children.lookup first).bind (·.get? (next :: rest)) = none := by
            cases hchild : children.lookup first with
            | none => rfl
            | some child =>
              apply get?_cons_of_not_folder
              rw [Bool.eq_false_iff]
              intro hfolder
              cases child with
              | file => cases hfolder
              | link => cases hfolder
              | folder => exact hold (by simp [contentAt, get?_folder, hchild, get?_nil, content])
          simp [hbelow, hnew.get?_cons]
      · simp [hfirst]
  | cons start place ih =>
    cases root with
    | file => cases habove
    | link => cases habove
    | folder siblings =>
      obtain ⟨children, hplace⟩ := contentAt_folder.mp habove
      rw [get?_folder] at hplace
      obtain ⟨child, hchild, _⟩ := Option.bind_eq_some_iff.mp hplace
      have hbelow :
        ∀ rest, (Node.folder siblings).contentAt (start :: rest) = child.contentAt rest := by
        intro rest
        simp [contentAt, get?_folder, hchild]
      rw [hbelow] at habove
      rw [List.cons_append, put_concat hchild]
      cases other with
      | nil => simp [contentAt, get?_nil, content]
      | cons first rest =>
        by_cases hfirst : first = start
        · subst hfirst
          rw [List.cons_append, hbelow] at hold
          rw [hbelow, contentAt, get?_folder, lookup_putChild, if_pos rfl, Option.bind_some,
            ← contentAt, ih habove hold rest]
          simp
        · rw [contentAt, contentAt, get?_folder, get?_folder, lookup_putChild, if_neg hfirst]
          simp [hfirst]

theorem Node.Proper.put {root new : Node} (h : root.Proper) (hnew : new.Proper) (place : Place)
    {name : Path} (hname : IsName name) : (root.put new (place ++ [name])).Proper := by
  induction place generalizing root with
  | nil =>
    cases root with
    | file => exact h
    | link => exact h
    | folder children => exact ProperChildren.putChild h hname hnew
  | cons start place ih =>
    cases hstart : root.get? [start] with
    | none => rwa [List.cons_append, Node.put_eq_self hstart]
    | some child =>
      obtain ⟨children, hroot, hchild⟩ := Node.get?_child hstart
      cases hroot
      obtain ⟨hname', hproper⟩ := ProperChildren.lookup h hchild
      rw [List.cons_append, Node.put_concat hchild]
      exact ProperChildren.putChild h hname' (ih hproper)

theorem LinklessChildren.lookup {children : List (Path × Node)} (h : LinklessChildren children)
    {name : Path} {node : Node} (hname : children.lookup name = some node) : node.Linkless := by
  induction children with
  | nil => cases hname
  | cons child rest ih =>
    obtain ⟨other, found⟩ := child
    rw [List.lookup_cons] at hname
    split at hname
    · cases hname
      exact h.1
    · exact ih h.2 hname

theorem Node.Linkless.get? {root : Node} (h : root.Linkless) (place : Place) (target : Path) :
    root.get? place ≠ some (.link target) := by
  intro hplace
  induction place generalizing root with
  | nil =>
    rw [Node.get?_nil] at hplace
    cases hplace
    exact h
  | cons name place ih =>
    cases root with
    | file => cases hplace
    | link => cases hplace
    | folder children =>
      rw [Node.get?_folder] at hplace
      obtain ⟨child, hchild, hplace⟩ := Option.bind_eq_some_iff.mp hplace
      exact ih (LinklessChildren.lookup h hchild) hplace

theorem LinklessChildren.putChild {children : List (Path × Node)} (h : LinklessChildren children)
    (name : Path) {node : Node} (hnode : node.Linkless) :
    LinklessChildren (Node.putChild name node children) := by
  induction children with
  | nil => exact ⟨hnode, trivial⟩
  | cons first rest ih =>
    unfold Node.putChild
    split
    · exact ⟨hnode, h.2⟩
    · split
      · exact ⟨hnode, h⟩
      · exact ⟨h.1, ih h.2⟩

theorem Node.Linkless.put {root new : Node} (h : root.Linkless) (hnew : new.Linkless)
    (place : Place) (name : Path) : (root.put new (place ++ [name])).Linkless := by
  induction place generalizing root with
  | nil =>
    cases root with
    | file => exact h
    | link => exact h
    | folder children => exact LinklessChildren.putChild h name hnew
  | cons start place ih =>
    cases hstart : root.get? [start] with
    | none => rwa [List.cons_append, Node.put_eq_self hstart]
    | some child =>
      obtain ⟨children, hroot, hchild⟩ := Node.get?_child hstart
      cases hroot
      rw [List.cons_append, Node.put_concat hchild]
      exact LinklessChildren.putChild h start (ih (LinklessChildren.lookup h hchild))

theorem lookup_eq_none_of_lt {children : List (Path × Node)} {name : Path}
    (h : ∀ child ∈ children, name < child.1) : children.lookup name = none := by
  induction children with
  | nil => rfl
  | cons child rest ih =>
    obtain ⟨other, found⟩ := child
    have hne : name ≠ other := by
      rintro rfl
      exact Path.lt_irrefl name (h _ List.mem_cons_self)
    rw [List.lookup_cons, beq_eq_false_iff_ne.mpr hne]
    exact ih fun c hc => h c (List.mem_cons_of_mem _ hc)

theorem lt_of_head {name other : Path} (h : name < other) {node : Node}
    {rest : List (Path × Node)} (hrest : ∀ child ∈ rest, other < child.1) :
    ∀ child ∈ (other, node) :: rest, name < child.1 := by
  intro child hchild
  rcases List.mem_cons.mp hchild with rfl | hchild
  · exact h
  · exact Path.lt_trans h (hrest child hchild)

theorem Node.contentAt_first (name : Path) (child : Node) (others : List (Path × Node))
    (rest : Place) :
    (Node.folder ((name, child) :: others)).contentAt (name :: rest) = child.contentAt rest := by
  simp [contentAt, get?_folder]

theorem Node.contentAt_other {name key : Path} (h : key ≠ name) (child : Node)
    (others : List (Path × Node)) (rest : Place) :
    (Node.folder ((name, child) :: others)).contentAt (key :: rest) =
      (Node.folder others).contentAt (key :: rest) := by
  simp [contentAt, get?_folder, List.lookup_cons, beq_eq_false_iff_ne.mpr h]

theorem Node.contentAt_of_lt {children : List (Path × Node)} {name : Path}
    (h : ∀ child ∈ children, name < child.1) (rest : Place) :
    (Node.folder children).contentAt (name :: rest) = none := by
  simp [contentAt, get?_folder, lookup_eq_none_of_lt h]

mutual

/-- Proper trees are told apart by what is found in them. -/
theorem Node.Proper.ext {a b : Node} (ha : a.Proper) (hb : b.Proper)
    (h : ∀ place, a.contentAt place = b.contentAt place) : a = b := by
  have hroot := h []
  simp only [Node.contentAt, Node.get?_nil, Option.map_some, Option.some.injEq] at hroot
  match a, b with
  | .file _, .file _ => cases hroot; rfl
  | .link _, .link _ => cases hroot; rfl
  | .folder as, .folder bs =>
    rw [ProperChildren.ext ha hb fun name rest => h (name :: rest)]

theorem ProperChildren.ext {as bs : List (Path × Node)} (ha : ProperChildren as)
    (hb : ProperChildren bs) (h : ∀ name rest, (Node.folder as).contentAt (name :: rest) =
      (Node.folder bs).contentAt (name :: rest)) : as = bs := by
  match as, bs with
  | [], [] => rfl
  | [], (name, b) :: bs =>
    have hfirst := h name []
    simp [Node.contentAt, Node.get?_folder, Node.get?_nil] at hfirst
  | (name, a) :: as, [] =>
    have hfirst := h name []
    simp [Node.contentAt, Node.get?_folder, Node.get?_nil] at hfirst
  | (name, a) :: as, (other, b) :: bs =>
    obtain ⟨_, hless, ha, has⟩ := ha
    obtain ⟨_, hless', hb, hbs⟩ := hb
    have hname : name = other := by
      by_contra hne
      rcases Path.lt_or_lt_of_ne hne with hlt | hlt
      · have hfirst := h name []
        rw [Node.contentAt_first, Node.contentAt_of_lt (lt_of_head hlt hless')] at hfirst
        cases hfirst
      · have hfirst := h other []
        rw [Node.contentAt_first, Node.contentAt_of_lt (lt_of_head hlt hless)] at hfirst
        cases hfirst
    subst hname
    have hnode : a = b := by
      apply Node.Proper.ext ha hb
      intro place
      have hplace := h name place
      rwa [Node.contentAt_first, Node.contentAt_first] at hplace
    have hrest : as = bs := by
      apply ProperChildren.ext has hbs
      intro key rest
      by_cases hkey : key = name
      · rw [hkey, Node.contentAt_of_lt hless, Node.contentAt_of_lt hless']
      · have hplace := h key rest
        rwa [Node.contentAt_other hkey, Node.contentAt_other hkey] at hplace
    rw [hnode, hrest]

end

end ReleaseStamp.FileTree
