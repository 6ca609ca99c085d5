import Sovd.Lib.LinkTree
import Sovd.Lib.Segments
import Sovd.Server.Http

/-!
# Static files (`server/src/static_files.cpp`)

The server hands out the files of its web UI from a directory, and refuses what would leave
it. A path is made canonical first, so that links are followed before anyone looks where
they lead, and what is looked at is the result.

One file is not looked at: `index.html`, which stands in for a path that is no file and has
no extension. It is opened by its name under the root, and where that is a link, by what
the link leads to. `served_inside_iff` says that this is the only way out.

Mirroring notes vs the C++:
- `std::filesystem::path` is its elements, as iteration yields them: the separators
  between two of them are one, and a separator at the end is an empty last element.
- A place in the file system is the list of the names on the way to it. Names are those a
  directory can hold.
- The process may search every directory. A file it may not read is there, and not opened.
- `.served` carries the path that was opened, which the C++ does not return.
-/

namespace Sovd

/-! ## Paths -/

/-- An element that can be the name of an entry of a directory. -/
def IsName (e : Bytes) : Prop := e ≠ [] ∧ e ≠ str "." ∧ e ≠ str ".."

instance (e : Bytes) : Decidable (IsName e) := inferInstanceAs (Decidable (_ ∧ _ ∧ _))

/-- The names a directory can have. -/
abbrev FileName := { name : Bytes // IsName name }

/-- `std::filesystem::path`: its elements, with an empty one behind a last slash. -/
structure FsPath where
  absolute : Bool
  elems : List Bytes
  deriving DecidableEq

namespace FsPath

/-- `std::filesystem::path(s)`. -/
def parse (s : Bytes) : FsPath :=
  let names := (s.splitOn 47).filter fun e => e ≠ []
  ⟨s.head? = some 47, if names ≠ [] ∧ s.getLast? = some 47 then names ++ [[]] else names⟩

/-- `empty()` -/
def isEmpty (p : FsPath) : Bool := !p.absolute && p.elems.isEmpty

/-- `p / q` -/
def append (p q : FsPath) : FsPath :=
  if q.absolute then q
  else
    let directory := if p.elems.getLast? = some [] then p.elems.dropLast else p.elems
    if q.elems ≠ [] then ⟨p.absolute, directory ++ q.elems⟩
    else if directory ≠ [] then ⟨p.absolute, directory ++ [[]]⟩
    else p

/-- One element of `lexically_normal`: dots go, and a `..` takes a name with it. -/
def normalStep (absolute : Bool) (stack : List Bytes) (e : Bytes) : List Bytes :=
  if e = [] ∨ e = str "." then stack
  else if e = str ".." then
    match stack.getLast? with
    | none => if absolute then [] else [e]
    | some top => if top = str ".." then stack ++ [e] else stack.dropLast
  else stack ++ [e]

/-- `lexically_normal`; what ends in a directory keeps its last slash. -/
def lexicallyNormal (p : FsPath) : FsPath :=
  let stack := p.elems.foldl (normalStep p.absolute) []
  if p.isEmpty then p
  else if stack = [] then if p.absolute then ⟨true, []⟩ else ⟨false, [str "."]⟩
  else if stack.getLast? ≠ some (str "..") ∧
      p.elems.getLast? ∈ [some [], some (str "."), some (str "..")] then
    ⟨p.absolute, stack ++ [[]]⟩
  else ⟨p.absolute, stack⟩

/-- `std::mismatch`: what is left of each behind the beginning they share. -/
def afterCommon : List Bytes → List Bytes → List Bytes × List Bytes
  | a :: as, b :: bs => if a = b then afterCommon as bs else (a :: as, b :: bs)
  | as, bs => (as, bs)

/-- `lexically_relative`: by the elements alone, without a look at the files. -/
def lexicallyRelative (p base : FsPath) : FsPath :=
  if p.absolute ≠ base.absolute then ⟨false, []⟩
  else
    let (a, b) := afterCommon p.elems base.elems
    let n : ℤ := b.countP (IsName ·) - b.count (str "..")
    if n = 0 ∧ (a = [] ∨ a.head? = some []) then ⟨false, [str "."]⟩
    else if n < 0 then ⟨false, []⟩
    else ⟨false, List.replicate n.toNat (str "..") ++ a⟩

/-- `under_base` -/
def underBase (p base : FsPath) : Bool :=
  let rel := p.lexicallyRelative base
  !rel.isEmpty && rel.elems.head? ≠ some (str "..")

/-- `filename()` -/
def filename (p : FsPath) : Bytes := p.elems.getLast?.getD []

/-- From the last dot on, if that is not where the name begins. -/
def extension (p : FsPath) : Bytes :=
  if p.filename = str "." ∨ p.filename = str ".." then []
  else if 46 ∈ p.filename.drop 1 then
    46 :: (p.filename.reverse.takeWhile fun c => c ≠ 46).reverse
  else []

/-- `has_extension()` -/
def hasExtension (p : FsPath) : Bool := !p.extension.isEmpty

end FsPath

/-! ## The file system -/

/-- What a name can stand for, but for directories and links. -/
inductive FileEntry
  | regular (content : Bytes) (readable : Bool)
  /-- a device, a socket -/
  | other

/-- The files of a process, and where it stands among them. -/
structure FileSystem where
  tree : LinkTree FileName FileEntry
  /-- where relative names begin -/
  cwd : List FileName
  cwd_real : tree.Real cwd
  maxLinks : ℕ

/-- An element of a path, as a step of the tree. -/
def toStep (e : Bytes) : Step FileName :=
  if h : IsName e then .down ⟨e, h⟩
  else if e = str ".." then .up
  else .here

/-- The path of a place. -/
def FsPath.ofPlace (place : List FileName) : FsPath := ⟨true, place.map Subtype.val⟩

namespace FileSystem

variable (fs : FileSystem)

/-- The place a path leads to, over all links: what `status` and `canonical` find. -/
def resolve (p : FsPath) : Except ResolveError (List FileName) :=
  if p.isEmpty then .error .notFound
  else fs.tree.resolve fs.maxLinks (if p.absolute then [] else fs.cwd) (p.elems.map toStep)

/-- The leading elements that exist, and the others. -/
def splitExisting (absolute : Bool) :
    List Bytes → List Bytes → Except ResolveError (List Bytes × List Bytes)
  | before, [] => .ok (before, [])
  | before, e :: rest =>
    match fs.resolve ⟨absolute, before ++ [e]⟩ with
    | .ok _ => splitExisting absolute (before ++ [e]) rest
    | .error .notFound => .ok (before, e :: rest)
    | .error ec => .error ec

/-- `weakly_canonical`: the part that exists is resolved, the rest is normalised. -/
def weaklyCanonical (p : FsPath) : Except ResolveError FsPath :=
  match fs.resolve p with
  | .ok place => .ok (.ofPlace place)
  | .error .notFound =>
    match fs.splitExisting p.absolute [] p.elems with
    | .error ec => .error ec
    | .ok (before, rest) =>
      if !p.absolute ∧ before = [] then .ok (FsPath.mk false rest).lexicallyNormal
      else
        match fs.resolve ⟨p.absolute, before⟩ with
        | .error ec => .error ec
        | .ok place => .ok (FsPath.mk true (place.map Subtype.val ++ rest)).lexicallyNormal
  | .error ec => .error ec

/-- `is_regular_file`, which follows links. -/
def isRegularFile (p : FsPath) : Bool :=
  match fs.resolve p with
  | .ok place =>
    match fs.tree.node place with
    | some (.file (.regular _ _)) => true
    | _ => false
  | .error _ => false

/-- What an `ifstream` on the path reads, if it opens. -/
def readFile (p : FsPath) : Option Bytes :=
  match fs.resolve p with
  | .ok place =>
    match fs.tree.node place with
    | some (.file (.regular content true)) => some content
    | _ => none
  | .error _ => none

end FileSystem

/-! ## Serving -/

/-- `mime_for` -/
def mimeFor (ext : Bytes) : Bytes :=
  if ext = str ".html" then str "text/html; charset=utf-8"
  else if ext = str ".js" ∨ ext = str ".mjs" then str "text/javascript; charset=utf-8"
  else if ext = str ".css" then str "text/css; charset=utf-8"
  else if ext = str ".svg" then str "image/svg+xml"
  else if ext = str ".png" then str "image/png"
  else if ext = str ".json" then str "application/json"
  else str "application/octet-stream"

/-- What comes of a request for a file. -/
inductive StaticResult
  | declined
  /-- `std::out_of_range`, of `substr` -/
  | threw
  | served (file : FsPath) (res : Response)

/-- The path of a request that is for a static file. -/
def staticPath (req : Request) : Option Bytes :=
  if req.method ≠ str "GET" then none
  else
    let p := req.path
    let rootHtml : Bool := decide
      (p = str "/" ∧ str "text/html" <:+: headerValue req.headers (str "Accept"))
    if p = str "/" ∧ !rootHtml then none
    else if str "/v1" <+: p ∧ (p.length = 3 ∨ p[3]? = some 47) then none
    else if 0 ∈ p ∨ str ".." <:+: p then none
    else some (if rootHtml then str "/index.html" else p)

/-- `send_file`: a file that cannot be read is declined. -/
def sendFile (fs : FileSystem) (file : FsPath) (res : Response) : StaticResult :=
  match fs.readFile file with
  | none => .declined
  | some content =>
    .served file ({ res with status := 200 }.setContent (.raw content) (mimeFor file.extension))

/-- `serve_static_file`: the file that is named if it is under the root, else `index.html`. -/
def serveStaticFile (fs : FileSystem) (root : Bytes) (req : Request) (res : Response) :
    StaticResult :=
  match staticPath req with
  | none => .declined
  | some p =>
    match fs.weaklyCanonical (.parse root) with
    | .error _ => .declined
    | .ok base =>
      if p = [] then .threw
      else
        match fs.weaklyCanonical (base.append (.parse (p.drop 1))) with
        | .error _ => .declined
        | .ok file =>
          if !file.underBase base then .declined
          else if fs.isRegularFile file then sendFile fs file res
          else if file.hasExtension then .declined
          else
            let index := base.append (.parse (str "index.html"))
            if fs.isRegularFile index then sendFile fs index res else .declined

/-! ## What a canonical path names -/

/-- A name leads down. -/
theorem toStep_val (name : FileName) : toStep name.1 = .down name := dif_pos name.2

theorem map_toStep_val (place : List FileName) :
    (place.map Subtype.val).map toStep = place.map .down := by
  rw [List.map_map]
  exact List.map_congr_left fun name _ => toStep_val name

/-- An empty element or a dot leads nowhere. -/
theorem toStep_of_not_isName {e : Bytes} (h : ¬ IsName e) (hup : e ≠ str "..") :
    toStep e = .here := by
  rw [toStep, dif_neg h, if_neg hup]

/-- A base with nothing left over is the front of the path. -/
theorem afterCommon_prefix {a b : List Bytes} (h : (FsPath.afterCommon a b).2 = []) : b <+: a := by
  fun_induction FsPath.afterCommon a b with
  | case1 as b bs ih => exact List.cons_prefix_cons.mpr ⟨rfl, ih h⟩
  | case2 => cases h
  | case3 as bs =>
    obtain rfl : bs = [] := h
    exact List.nil_prefix

/-- What is left of a base is its end. -/
theorem afterCommon_suffix (a b : List Bytes) : (FsPath.afterCommon a b).2 <:+ b := by
  fun_induction FsPath.afterCommon a b with
  | case1 as b bs ih => exact ih.trans (List.suffix_cons b bs)
  | case2 => exact List.suffix_refl _
  | case3 => exact List.suffix_refl _

/-- A path under a place goes on from the names of the place. -/
theorem prefix_of_underBase {p : FsPath} {place : List FileName}
    (h : p.underBase (.ofPlace place) = true) :
    p.absolute = true ∧ place.map Subtype.val <+: p.elems := by
  have hnames : ∀ e ∈ (FsPath.afterCommon p.elems (place.map Subtype.val)).2, IsName e := by
    intro e he
    obtain ⟨name, -, rfl⟩ := List.mem_map.mp ((afterCommon_suffix _ _).mem he)
    exact name.2
  unfold FsPath.underBase FsPath.lexicallyRelative FsPath.ofPlace at h
  split at h
  next => cases h
  next habs =>
    refine ⟨not_not.mp habs, afterCommon_prefix ?_⟩
    -- every element of the base that is left would be one step up
    cases hleft : (FsPath.afterCommon p.elems (place.map Subtype.val)).2 with
    | nil => rfl
    | cons e rest =>
      exfalso
      rw [hleft] at hnames
      have hcount : (e :: rest).countP (IsName ·) = rest.length + 1 := by
        rw [List.countP_eq_length.mpr fun e' he' => decide_eq_true (hnames e' he')]
        rfl
      have hup : (e :: rest).count (str "..") = 0 :=
        List.count_eq_zero.mpr fun hmem => (hnames _ hmem).2.2 rfl
      simp only [hleft, hcount, hup] at h
      rw [if_neg (by omega), if_neg (by omega)] at h
      simp [FsPath.isEmpty, List.replicate_succ] at h

/-- Without a `..` normalising only drops what is no name. -/
theorem foldl_normalStep {elems : List Bytes} (h : str ".." ∉ elems) (absolute : Bool)
    (stack : List Bytes) :
    elems.foldl (FsPath.normalStep absolute) stack = stack ++ elems.filter (IsName ·) := by
  induction elems generalizing stack with
  | nil => simp
  | cons e elems ih =>
    rw [List.mem_cons, not_or] at h
    rw [List.foldl_cons, ih h.2, FsPath.normalStep]
    by_cases hskip : e = [] ∨ e = str "."
    · have hname : ¬ IsName e := fun hn => hskip.elim hn.1 hn.2.1
      rw [if_pos hskip, List.filter_cons_of_neg (by simpa using hname)]
    · have hname : IsName e := ⟨fun he => hskip (.inl he), fun he => hskip (.inr he), Ne.symm h.1⟩
      rw [if_neg hskip, if_neg (Ne.symm h.1), List.filter_cons_of_pos (by simpa using hname),
        List.append_assoc, List.singleton_append]

/-- What the normal form of a path adds at its end. -/
theorem lexicallyNormal_names {place : List FileName} {rest : List Bytes} (hup : str ".." ∉ rest)
    (hne : place ≠ [] ∨ rest.filter (IsName ·) ≠ []) :
    ∃ slash : List Bytes, (FsPath.mk true (place.map Subtype.val ++ rest)).lexicallyNormal =
        ⟨true, place.map Subtype.val ++ rest.filter (IsName ·) ++ slash⟩ ∧
      (slash = [] ∨ slash = [[]]) ∧
      (rest ≠ [] → rest.filter (IsName ·) = [] → slash = [[]]) := by
  have hplace : str ".." ∉ place.map Subtype.val := by
    intro hmem
    obtain ⟨name, -, hname⟩ := List.mem_map.mp hmem
    exact name.2.2.2 hname
  have hfilter : (place.map Subtype.val).filter (IsName ·) = place.map Subtype.val := by
    rw [List.filter_eq_self]
    intro e he
    obtain ⟨name, -, rfl⟩ := List.mem_map.mp he
    exact decide_eq_true name.2
  have hstack : (place.map Subtype.val ++ rest).foldl (FsPath.normalStep true) [] =
      place.map Subtype.val ++ rest.filter (IsName ·) := by
    rw [foldl_normalStep (by simp only [List.mem_append, hplace, hup, or_self, not_false_iff]),
      List.filter_append, hfilter, List.nil_append]
  have hstackne : place.map Subtype.val ++ rest.filter (IsName ·) ≠ [] := by
    intro hnil
    obtain ⟨h₁, h₂⟩ := List.append_eq_nil_iff.mp hnil
    exact hne.elim (fun h => h (List.map_eq_nil_iff.mp h₁)) fun h => h h₂
  have hlast : (place.map Subtype.val ++ rest.filter (IsName ·)).getLast? ≠ some (str "..") := by
    intro heq
    rcases List.mem_append.mp (List.mem_of_getLast? heq) with hmem | hmem
    · exact hplace hmem
    · exact hup (List.mem_of_mem_filter hmem)
  unfold FsPath.lexicallyNormal
  simp only [hstack, FsPath.isEmpty, Bool.not_true, Bool.false_and, Bool.false_eq_true, if_false]
  rw [if_neg hstackne]
  split_ifs with hslash
  · exact ⟨[[]], rfl, .inr rfl, fun _ _ => rfl⟩
  · refine ⟨[], by rw [List.append_nil], .inl rfl, fun hrest hnone => absurd ⟨hlast, ?_⟩ hslash⟩
    -- the last element is no name, so it is one of the two that stand for the directory
    have hmem : rest.getLast hrest ∈ rest := List.getLast_mem hrest
    have hno : ¬ IsName (rest.getLast hrest) := by
      intro hname
      have hkept : rest.getLast hrest ∈ rest.filter (IsName ·) :=
        List.mem_filter.mpr ⟨hmem, decide_eq_true hname⟩
      rw [hnone] at hkept
      cases hkept
    have hnotup : rest.getLast hrest ≠ str ".." := fun heq => hup (heq ▸ hmem)
    rw [List.getLast?_append, List.getLast?_eq_getLast_of_ne_nil hrest, Option.some_or]
    by_cases hempty : rest.getLast hrest = []
    · rw [hempty]
      exact List.mem_cons_self
    · have hdot : rest.getLast hrest = str "." := by
        by_contra hdot
        exact hno ⟨hempty, hdot, hnotup⟩
      rw [hdot]
      exact List.mem_cons_of_mem _ List.mem_cons_self

section

variable {fs : FileSystem}

/-- An absolute path is resolved from the root. -/
theorem resolve_of_absolute {elems : List Bytes} :
    fs.resolve ⟨true, elems⟩ = fs.tree.resolve fs.maxLinks [] (elems.map toStep) := rfl

/-- A canonical path leads to its place. -/
theorem resolve_ofPlace {place : List FileName} (h : fs.tree.Real place) :
    fs.resolve (.ofPlace place) = .ok place := by
  rw [FsPath.ofPlace, resolve_of_absolute, map_toStep_val, ← List.append_nil (place.map _),
    LinkTree.resolve_names h]
  cases fs.maxLinks <;> rfl

/-- Every place a path leads to is real. -/
theorem real_of_resolve {p : FsPath} {place : List FileName} (h : fs.resolve p = .ok place) :
    fs.tree.Real place := by
  unfold FileSystem.resolve at h
  split_ifs at h
  · exact LinkTree.resolve_real LinkTree.real_root h
  · exact LinkTree.resolve_real fs.cwd_real h

/-- The split is at the first element that does not exist. -/
theorem splitExisting_eq_ok {elems before before' rest : List Bytes} {place : List FileName}
    (hbefore : fs.resolve ⟨true, before⟩ = .ok place)
    (h : fs.splitExisting true before elems = .ok (before', rest)) :
    before ++ elems = before' ++ rest ∧ (∃ place', fs.resolve ⟨true, before'⟩ = .ok place') ∧
      ∀ e rest', rest = e :: rest' → fs.resolve ⟨true, before' ++ [e]⟩ = .error .notFound := by
  induction elems generalizing before place with
  | nil =>
    obtain ⟨rfl, rfl⟩ := Prod.mk.inj (Except.ok.inj h)
    exact ⟨rfl, ⟨place, hbefore⟩, fun e rest' heq => by cases heq⟩
  | cons e elems ih =>
    rw [FileSystem.splitExisting] at h
    split at h
    next place' hplace' =>
      obtain ⟨heq, hexists, hmissing⟩ := ih hplace' h
      exact ⟨by rw [← heq, List.append_assoc, List.singleton_append], hexists, hmissing⟩
    next hmissing =>
      obtain ⟨rfl, rfl⟩ := Prod.mk.inj (Except.ok.inj h)
      refine ⟨rfl, ⟨place, hbefore⟩, fun e' rest' heq => ?_⟩
      obtain ⟨rfl, -⟩ := List.cons.inj heq
      exact hmissing
    next => cases h

/-- A path made of a place and of what does not exist there leads nowhere. -/
theorem not_found_of_missing {place : List FileName} {e : Bytes} {rest : List Bytes}
    (hreal : fs.tree.Real place) (hup : str ".." ∉ e :: rest)
    (hmissing : ∀ more, fs.tree.resolve fs.maxLinks place (toStep e :: more) = .error .notFound) :
    fs.resolve (FsPath.mk true (place.map Subtype.val ++ e :: rest)).lexicallyNormal =
      .error .notFound := by
  -- a place is reached by asking for itself if it is a directory
  have hroot : toStep e = .here → fs.tree.isDirectory place = false := by
    intro hhere
    by_contra hdir
    rw [Bool.not_eq_false] at hdir
    have hmiss := hmissing []
    rw [hhere, LinkTree.resolve_here hdir] at hmiss
    cases hlinks : fs.maxLinks <;> rw [hlinks] at hmiss <;> cases hmiss
  have hkept : IsName e → (e :: rest).filter (IsName ·) = e :: rest.filter (IsName ·) :=
    fun hname => List.filter_cons_of_pos (by simpa using hname)
  -- so a name is left, in the place or in the rest
  have hne : place ≠ [] ∨ (e :: rest).filter (IsName ·) ≠ [] := by
    by_cases hname : IsName e
    · rw [hkept hname]
      exact .inr (List.cons_ne_nil _ _)
    · refine .inl fun hnil => ?_
      have hnotdir := hroot (toStep_of_not_isName hname fun heq => hup (heq ▸ List.mem_cons_self))
      rw [hnil, LinkTree.isDirectory_iff.mpr fs.tree.root_directory] at hnotdir
      cases hnotdir
  obtain ⟨slash, hnormal, -, hslash⟩ := lexicallyNormal_names hup hne
  rw [hnormal, resolve_of_absolute, List.append_assoc, List.map_append, map_toStep_val,
    LinkTree.resolve_names hreal]
  by_cases hname : IsName e
  · rw [hkept hname, List.cons_append, List.map_cons]
    exact hmissing _
  · -- what the element asks for is that the place is a directory
    have hnotdir := hroot (toStep_of_not_isName hname fun heq => hup (heq ▸ List.mem_cons_self))
    cases hsteps : ((e :: rest).filter (IsName ·) ++ slash).map toStep with
    | nil =>
      obtain ⟨hnone, hnil⟩ := List.append_eq_nil_iff.mp (List.map_eq_nil_iff.mp hsteps)
      rw [hslash (List.cons_ne_nil _ _) hnone] at hnil
      cases hnil
    | cons s steps => exact LinkTree.resolve_of_not_directory hnotdir _ s steps

/-- A regular file is one that the path leads to. -/
theorem isRegularFile_iff {p : FsPath} :
    fs.isRegularFile p = true ↔
      ∃ place content readable, fs.resolve p = .ok place ∧
        fs.tree.node place = some (.file (.regular content readable)) := by
  unfold FileSystem.isRegularFile
  constructor
  · intro h
    split at h
    next place hplace =>
      split at h
      next content readable hnode => exact ⟨place, content, readable, hplace, hnode⟩
      next => cases h
    next => cases h
  · rintro ⟨place, content, readable, hplace, hnode⟩
    rw [hplace]
    dsimp only
    rw [hnode]

/-- **A file has no other canonical path than its place**: where a path without steps up
is made canonical and a file is there, no link is left on the way. -/
theorem place_of_weaklyCanonical {q file : FsPath} (habs : q.absolute = true)
    (hup : str ".." ∉ q.elems) (h : fs.weaklyCanonical q = .ok file)
    (hregular : fs.isRegularFile file = true) :
    ∃ place, fs.tree.Real place ∧ file = .ofPlace place := by
  obtain ⟨absolute, elems⟩ := q
  obtain rfl : absolute = true := habs
  unfold FileSystem.weaklyCanonical at h
  split at h
  next place hplace => exact ⟨place, real_of_resolve hplace, (Except.ok.inj h).symm⟩
  next hmissing =>
    exfalso
    have hroot : fs.resolve ⟨true, []⟩ = .ok [] := resolve_ofPlace LinkTree.real_root
    split at h
    next => cases h
    next before rest hsplit =>
      obtain ⟨helems, ⟨place, hplace⟩, hnext⟩ := splitExisting_eq_ok hroot hsplit
      rw [List.nil_append] at helems
      simp only [Bool.not_true, Bool.false_eq_true, false_and, if_false, hplace] at h
      cases rest with
      | nil =>
        obtain rfl : elems = before := by rw [List.append_nil] at helems; exact helems
        rw [hplace] at hmissing
        cases hmissing
      | cons e rest =>
        have hstep := hnext e rest rfl
        rw [resolve_of_absolute, List.map_append, List.map_singleton] at hstep
        have hnone := not_found_of_missing (real_of_resolve hplace)
          (fun hmem => hup (helems ▸ List.mem_append_right before hmem))
          (LinkTree.notFound_at_place hplace hstep)
        obtain ⟨place', -, -, hfound, -⟩ := isRegularFile_iff.mp hregular
        rw [← Except.ok.inj h, hnone] at hfound
        cases hfound
  next => cases h

/-! ## The request -/

/-- Every element of a path is written in its text. -/
theorem infix_of_mem_elems {s e : Bytes} (h : e ∈ (FsPath.parse s).elems) : e <:+: s := by
  have hnil : ([] : Bytes) <:+: s := List.nil_infix
  have hsplit : ∀ e ∈ (s.splitOn 47).filter fun e => e ≠ [], e <:+: s := by
    intro e he
    exact Segments.infix_of_mem_splitOn (List.mem_of_mem_filter he)
  unfold FsPath.parse at h
  dsimp only at h
  split_ifs at h
  · rcases List.mem_append.mp h with hmem | hmem
    · exact hsplit e hmem
    · rw [List.mem_singleton.mp hmem]
      exact hnil
  · exact hsplit e h

/-- The path a request names is absolute and has no step up. -/
theorem request_elems {base : List FileName} {p : Bytes} (hdots : ¬ str ".." <:+: p) :
    ((FsPath.ofPlace base).append (.parse (p.drop 1))).absolute = true ∧
      str ".." ∉ ((FsPath.ofPlace base).append (.parse (p.drop 1))).elems := by
  have hparse : str ".." ∉ (FsPath.parse (p.drop 1)).elems :=
    fun hmem => hdots ((infix_of_mem_elems hmem).trans (List.drop_suffix 1 p).isInfix)
  have hbase : ∀ e ∈ (FsPath.ofPlace base).elems, IsName e := by
    intro e he
    obtain ⟨name, -, rfl⟩ := List.mem_map.mp he
    exact name.2
  have hdirectory : (if (FsPath.ofPlace base).elems.getLast? = some [] then
      (FsPath.ofPlace base).elems.dropLast else (FsPath.ofPlace base).elems) =
        (FsPath.ofPlace base).elems :=
    if_neg fun hlast => (hbase [] (List.mem_of_getLast? hlast)).1 rfl
  unfold FsPath.append
  rw [hdirectory]
  dsimp only
  split_ifs with habs
  · exact ⟨habs, hparse⟩
  · refine ⟨rfl, fun hmem => ?_⟩
    rcases List.mem_append.mp hmem with hmem | hmem
    · exact (hbase _ hmem).2.2 rfl
    · exact hparse hmem
  · refine ⟨rfl, fun hmem => ?_⟩
    rcases List.mem_append.mp hmem with hmem | hmem
    · exact (hbase _ hmem).2.2 rfl
    · exact absurd (List.mem_singleton.mp hmem) (by decide)
  · exact ⟨rfl, fun hmem => (hbase _ hmem).2.2 rfl⟩

/-- A path that is let through has no `..` in it. -/
theorem staticPath_eq_some {req : Request} {p : Bytes} (h : staticPath req = some p) :
    ¬ str ".." <:+: p := by
  unfold staticPath at h
  dsimp only at h
  split_ifs at h with _ _ _ hrefused hhtml
  · obtain rfl := Option.some.inj h
    decide
  · obtain rfl := Option.some.inj h
    exact fun hdots => hrefused (.inr hdots)

/-- The file that a request is answered with lies under the root. -/
def StaysInside (fs : FileSystem) (root : Bytes) (req : Request) (res : Response) : Prop :=
  ∀ file res', serveStaticFile fs root req res = .served file res' →
    ∃ base place, fs.resolve (.parse root) = .ok base ∧ fs.resolve file = .ok place ∧ base <+: place

/-- The file `index.html` stands in: the path is under the root and no file, and its name
has no extension. -/
def FallsBack (fs : FileSystem) (base : FsPath) (req : Request) : Prop :=
  ∃ p file, staticPath req = some p ∧ p ≠ [] ∧
    fs.weaklyCanonical (base.append (.parse (p.drop 1))) = .ok file ∧ file.underBase base = true ∧
    fs.isRegularFile file = false ∧ file.hasExtension = false

/-- `index.html` is a link to a file elsewhere, and one that can be read. -/
def LeadsOut (fs : FileSystem) (base : List FileName) : Prop :=
  ∃ place content,
    fs.resolve ((FsPath.ofPlace base).append (.parse (str "index.html"))) = .ok place ∧
    fs.tree.node place = some (.file (.regular content true)) ∧ ¬ base <+: place

/-- What exists is its own place. -/
theorem weaklyCanonical_of_resolve {p : FsPath} {place : List FileName}
    (h : fs.resolve p = .ok place) : fs.weaklyCanonical p = .ok (.ofPlace place) := by
  rw [FileSystem.weaklyCanonical, h]

/-- What is sent is the content of the file. -/
theorem sendFile_eq_served {file opened : FsPath} {res res' : Response}
    (h : sendFile fs file res = .served opened res') :
    opened = file ∧ ∃ place content, fs.resolve file = .ok place ∧
      fs.tree.node place = some (.file (.regular content true)) := by
  unfold sendFile FileSystem.readFile at h
  split at h
  next => cases h
  next content hcontent =>
    obtain ⟨rfl, -⟩ := StaticResult.served.inj h
    split at hcontent
    next place hplace =>
      split at hcontent
      next content' hnode => exact ⟨rfl, place, content', hplace, hnode⟩
      next => cases hcontent
    next => cases hcontent

/-- A regular file that can be read is sent. -/
theorem sendFile_of_regular {file : FsPath} {place : List FileName} {content : Bytes}
    (hplace : fs.resolve file = .ok place)
    (hnode : fs.tree.node place = some (.file (.regular content true))) (res : Response) :
    ∃ res', sendFile fs file res = .served file res' := by
  have hread : fs.readFile file = some content := by
    rw [FileSystem.readFile, hplace]
    dsimp only
    rw [hnode]
  exact ⟨_, by rw [sendFile, hread]⟩

variable {root : Bytes} {base : List FileName} {req : Request} {res res' : Response}
  {file : FsPath}

/-- Served is either the file that was asked for, or `index.html`. -/
theorem serveStaticFile_eq_served (hroot : fs.resolve (.parse root) = .ok base)
    (h : serveStaticFile fs root req res = .served file res') :
    (∃ p, staticPath req = some p ∧
      fs.weaklyCanonical ((FsPath.ofPlace base).append (.parse (p.drop 1))) = .ok file ∧
      file.underBase (.ofPlace base) = true ∧ fs.isRegularFile file = true) ∨
    (FallsBack fs (.ofPlace base) req ∧
      file = (FsPath.ofPlace base).append (.parse (str "index.html")) ∧
      sendFile fs file res = .served file res') := by
  unfold serveStaticFile at h
  split at h
  next => cases h
  next p hp =>
    rw [weaklyCanonical_of_resolve hroot] at h
    dsimp only at h
    by_cases hempty : p = []
    · rw [if_pos hempty] at h
      cases h
    rw [if_neg hempty] at h
    split at h
    next => cases h
    next target htarget =>
      split_ifs at h with hunder hregular hext
      · obtain ⟨rfl, -⟩ := sendFile_eq_served h
        exact .inl ⟨p, hp, htarget, by simpa using hunder, hregular⟩
      · obtain ⟨rfl, -⟩ := sendFile_eq_served h
        refine .inr ⟨⟨p, target, hp, hempty, htarget, ?_, ?_, ?_⟩, rfl, h⟩
        · simpa using hunder
        · simpa using hregular
        · simpa using hext

/-- Where the request falls back, `index.html` is served, wherever it leads. -/
theorem serveStaticFile_of_fallsBack (hroot : fs.resolve (.parse root) = .ok base)
    (hfalls : FallsBack fs (.ofPlace base) req) {place : List FileName} {content : Bytes}
    (hplace : fs.resolve ((FsPath.ofPlace base).append (.parse (str "index.html"))) = .ok place)
    (hnode : fs.tree.node place = some (.file (.regular content true))) :
    ∃ res', serveStaticFile fs root req res =
      .served ((FsPath.ofPlace base).append (.parse (str "index.html"))) res' := by
  obtain ⟨p, target, hp, hempty, htarget, hunder, hregular, hext⟩ := hfalls
  obtain ⟨res', hsend⟩ := sendFile_of_regular hplace hnode res
  refine ⟨res', ?_⟩
  have hindex := isRegularFile_iff.mpr ⟨place, content, true, hplace, hnode⟩
  unfold serveStaticFile
  rw [hp, weaklyCanonical_of_resolve hroot]
  dsimp only
  rw [if_neg hempty, htarget]
  dsimp only
  rw [hunder, hregular, hext, hindex]
  exact hsend

/-- **Static files stay inside the root**, but for one: a file is served from elsewhere just
when `index.html` stands in for the path and is a link that leads out. -/
theorem served_inside_iff (hroot : fs.resolve (.parse root) = .ok base) :
    StaysInside fs root req res ↔ ¬ (FallsBack fs (.ofPlace base) req ∧ LeadsOut fs base) := by
  constructor
  · rintro hinside ⟨hfalls, place, content, hplace, hnode, hout⟩
    obtain ⟨res', hserved⟩ : ∃ res', serveStaticFile fs root req res =
        .served ((FsPath.ofPlace base).append (.parse (str "index.html"))) res' :=
      serveStaticFile_of_fallsBack hroot hfalls hplace hnode
    obtain ⟨base', place', hbase', hplace', hpre⟩ := hinside _ _ hserved
    obtain rfl := Except.ok.inj (hroot.symm.trans hbase')
    obtain rfl := Except.ok.inj (hplace.symm.trans hplace')
    exact hout hpre
  · intro h file res' hserved
    rcases serveStaticFile_eq_served hroot hserved with
      ⟨p, hp, hcanonical, hunder, hregular⟩ | ⟨hfalls, rfl, hsend⟩
    · -- the file that was asked for was made canonical before it was looked at
      obtain ⟨habs, hup⟩ := request_elems (staticPath_eq_some hp)
      obtain ⟨place, hreal, rfl⟩ := place_of_weaklyCanonical habs hup hcanonical hregular
      refine ⟨base, place, hroot, resolve_ofPlace hreal, ?_⟩
      have hnames := (prefix_of_underBase hunder).2
      exact (List.prefix_map_iff_of_injective Subtype.val_injective).mp hnames
    · obtain ⟨-, place, content, hplace, hnode⟩ := sendFile_eq_served hsend
      refine ⟨base, place, hroot, hplace, ?_⟩
      by_contra hout
      exact h ⟨hfalls, place, content, hplace, hnode, hout⟩

end

/-! ## A root that leads out -/

/-- `/www` and `/etc`, and in the one a link to a file of the other. -/
def linkedTree : LinkTree FileName FileEntry :=
  let www : FileName := ⟨str "www", by decide⟩
  let etc : FileName := ⟨str "etc", by decide⟩
  let index : FileName := ⟨str "index.html", by decide⟩
  let passwd : FileName := ⟨str "passwd", by decide⟩
  { node := fun place =>
      if place = [] ∨ place = [www] ∨ place = [etc] then some .directory
      else if place = [www, index] then some (.link true [.down etc, .down passwd])
      else if place = [etc, passwd] then some (.file (.regular (str "root:x:0:0") true))
      else none
    root_directory := rfl }

/-- A root whose `index.html` is a link to a file elsewhere. -/
def linkedFiles : FileSystem where
  tree := linkedTree
  cwd := []
  cwd_real := LinkTree.real_root
  maxLinks := 40

/-- The root itself is where its name says. -/
theorem resolve_www :
    linkedFiles.resolve (.parse (str "/www")) = .ok [⟨str "www", by decide⟩] := by
  have hparse : FsPath.parse (str "/www") = ⟨true, [str "www"]⟩ := by decide
  rw [hparse]
  rfl

/-- A name with an extension is not stood in for. -/
theorem served_inside_logo :
    StaysInside linkedFiles (str "/www") { method := str "GET", path := str "/logo.png" } {} := by
  refine (served_inside_iff resolve_www).mpr ?_
  rintro ⟨⟨p, file, hp, -, hfile, -, -, hext⟩, -⟩
  have hpath : staticPath { method := str "GET", path := str "/logo.png" } =
      some (str "/logo.png") := by decide
  obtain rfl := Option.some.inj (hpath.symm.trans hp)
  have hparse : FsPath.parse ((str "/logo.png").drop 1) = ⟨false, [str "logo.png"]⟩ := by decide
  have hcanonical : linkedFiles.weaklyCanonical ((FsPath.ofPlace [⟨str "www", by decide⟩]).append
      ⟨false, [str "logo.png"]⟩) = .ok ⟨true, [str "www", str "logo.png"]⟩ := by decide
  rw [hparse, hcanonical] at hfile
  rw [← Except.ok.inj hfile] at hext
  exact absurd hext (by decide)

/-- `/settings` is answered with `/etc/passwd`. -/
theorem served_from_outside :
    (∃ file res', serveStaticFile linkedFiles (str "/www")
        { method := str "GET", path := str "/settings" } {} = .served file res' ∧
      linkedFiles.resolve file = .ok [⟨str "etc", by decide⟩, ⟨str "passwd", by decide⟩]) ∧
    ¬ StaysInside linkedFiles (str "/www") { method := str "GET", path := str "/settings" } {} := by
  have hparse : FsPath.parse ((str "/settings").drop 1) = ⟨false, [str "settings"]⟩ := by decide
  have hindex : FsPath.parse (str "index.html") = ⟨false, [str "index.html"]⟩ := by decide
  have hcanonical : linkedFiles.weaklyCanonical ((FsPath.ofPlace [⟨str "www", by decide⟩]).append
      ⟨false, [str "settings"]⟩) = .ok ⟨true, [str "www", str "settings"]⟩ := by decide
  have hplace : linkedFiles.resolve ((FsPath.ofPlace [⟨str "www", by decide⟩]).append
      (.parse (str "index.html"))) = .ok [⟨str "etc", by decide⟩, ⟨str "passwd", by decide⟩] := by
    rw [hindex]
    decide
  have hfalls : FallsBack linkedFiles (.ofPlace [⟨str "www", by decide⟩])
      { method := str "GET", path := str "/settings" } := by
    refine ⟨str "/settings", ⟨true, [str "www", str "settings"]⟩, by decide, by decide, ?_,
      by decide, by decide, by decide⟩
    rw [hparse]
    exact hcanonical
  obtain ⟨res', hserved⟩ : ∃ res', serveStaticFile linkedFiles (str "/www")
      { method := str "GET", path := str "/settings" } {} =
        .served ((FsPath.ofPlace [⟨str "www", by decide⟩]).append (.parse (str "index.html")))
          res' :=
    serveStaticFile_of_fallsBack resolve_www hfalls hplace rfl
  refine ⟨⟨_, res', hserved, hplace⟩, fun hinside => ?_⟩
  obtain ⟨base, place, hbase, hplace', hpre⟩ := hinside _ _ hserved
  obtain rfl := Except.ok.inj (resolve_www.symm.trans hbase)
  obtain rfl := Except.ok.inj (hplace.symm.trans hplace')
  exact absurd hpre (by decide)

end Sovd
