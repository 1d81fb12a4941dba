import ChatFeed.Storage.Folder

/-!
# Proofs/Storage/Folder — what writing does to a tree of files

A file of a directory lies at the directory's parts and its own name (`Storage.parts_join`).  What a
directory holds is read from the nodes right below it (`Folder.below`), and a node that is put
somewhere changes the one place only.

* `Folder.makeDirectory_ok` — a directory that was made is there, with those above it, and nothing
  is below it that was not there before.
* `Folder.append_child`, `Folder.append_eq_ok` — a line is appended to a file of a directory that is
  there; when it was, the file has its bytes and a line feed more (`Content.bytes_addLine`).
* `Folder.Gains` — what a path gains is counted in lines, and adds up (`Folder.Gains.append`).
-/

namespace ChatFeed

namespace Storage

/-! ## The parts of a path -/

/-- **A name that stands for itself** as a part of a path. -/
structure IsPlainName (name : String) : Prop where
  ne_empty : name ≠ ""
  ne_dot : name ≠ "."
  ne_dots : name ≠ ".."
  no_slash : '/' ∉ name.toList
  no_zero : ∀ c ∈ name.toList, c.toNat ≠ 0

theorem namesFrom_append_slash (acc cs rest : List Char) :
    namesFrom acc (cs ++ '/' :: rest) = namesFrom acc cs ++ namesFrom [] rest := by
  induction cs generalizing acc with
  | nil => simp [namesFrom]
  | cons c cs ih =>
    by_cases hc : c = '/'
    · simp [namesFrom, hc, ih]
    · simp [namesFrom, hc, ih]

theorem namesFrom_of_no_slash {cs : List Char} (h : '/' ∉ cs) (acc : List Char) :
    namesFrom acc cs = [acc.reverse ++ cs] := by
  induction cs generalizing acc with
  | nil => simp [namesFrom]
  | cons c cs ih =>
    have hc : c ≠ '/' := fun hc => h (by simp [hc])
    have hcs : '/' ∉ cs := fun hcs => h (List.mem_cons_of_mem _ hcs)
    simp [namesFrom, hc, ih hcs]

theorem stepInto_plain {name : String} (h : IsPlainName name) (ps : List String) :
    stepInto ps name = name :: ps := by
  simp [stepInto, h.ne_empty, h.ne_dot, h.ne_dots]

/-- The parts that the characters of a path spell. -/
def spelled (cs : List Char) : List String :=
  ((namesFrom [] cs).foldl (fun ps name => stepInto ps (String.ofList name))
    (if cs.head? = some '/' then ["/"] else [])).reverse

theorem parts_eq_some_iff {path : String} {place : List String} :
    parts path = some place ↔ path.toList ≠ [] ∧ (∀ c ∈ path.toList, c.toNat ≠ 0)
      ∧ spelled path.toList = place := by
  have hany : path.toList.any (fun c => decide (c.toNat = 0)) = true
      ↔ ¬ ∀ c ∈ path.toList, c.toNat ≠ 0 := by simp
  unfold parts
  by_cases h : path.toList.isEmpty = true ∨ path.toList.any (fun c => decide (c.toNat = 0)) = true
  · rw [if_pos h]
    refine ⟨fun hsome => absurd hsome (by simp), fun ⟨hne, hzero, _⟩ => absurd h ?_⟩
    rw [hany, List.isEmpty_iff]
    exact not_or.mpr ⟨hne, not_not_intro hzero⟩
  · rw [if_neg h]
    rw [hany, List.isEmpty_iff, not_or, Classical.not_not] at h
    exact ⟨fun hsome => ⟨h.1, h.2, Option.some.inj hsome⟩, fun hsome => congrArg some hsome.2.2⟩

/-- A slash at the end of a path is no part. -/
theorem spelled_append_end {cs : List Char} (h : cs ≠ []) : spelled (cs ++ ['/']) = spelled cs := by
  have hhead : (cs ++ ['/']).head? = cs.head? := by
    obtain ⟨c, cs, rfl⟩ := List.exists_cons_of_ne_nil h
    rfl
  rw [spelled, namesFrom_append_slash, hhead, List.foldl_append]
  rfl

/-- **A plain name behind a slash is one part more.** -/
theorem spelled_append_name {name : String} (plain : IsPlainName name) (cs : List Char) :
    spelled (cs ++ '/' :: name.toList) = spelled (cs ++ ['/']) ++ [name] := by
  have hhead : ∀ rest, (cs ++ '/' :: rest).head? = (cs ++ ['/']).head? := by
    cases cs <;> exact fun _ => rfl
  have hname : namesFrom [] name.toList = [name.toList] :=
    namesFrom_of_no_slash plain.no_slash []
  have hend : namesFrom [] [] = [[]] := rfl
  simp only [spelled, hhead name.toList, namesFrom_append_slash, hname, hend, List.foldl_append,
    List.foldl_cons, List.foldl_nil, String.ofList_toList, stepInto_plain plain]
  rw [List.reverse_cons]
  rfl

/-- A plain name is not counted from the root. -/
theorem isAbsolute_of_plain {name : String} (plain : IsPlainName name) : isAbsolute name = false :=
  decide_eq_false fun hhead => plain.no_slash (List.mem_of_head? hhead)

/-- **A plain name in a directory** lies at the directory's parts and the name. -/
theorem parts_join {directory name : String} {place : List String}
    (h : parts directory = some place) (plain : IsPlainName name) :
    parts (join directory name) = some (place ++ [name]) := by
  obtain ⟨hne, hzero, rfl⟩ := parts_eq_some_iff.mp h
  have hdirectory : directory ≠ "" := fun hd => hne (by rw [hd]; rfl)
  rw [parts_eq_some_iff, join, isAbsolute_of_plain plain]
  by_cases hend : directory.toList.getLast? = some '/'
  · obtain ⟨cs, hcs⟩ := List.getLast?_eq_some_iff.mp hend
    have htext : (directory ++ name).toList = cs ++ '/' :: name.toList := by simp [hcs]
    rw [if_neg (by decide), if_pos (.inr hend), htext, spelled_append_name plain, hcs]
    refine ⟨by simp, fun c hc => ?_, rfl⟩
    rw [hcs] at hzero
    simp only [List.mem_append, List.mem_cons] at hc
    rcases hc with hc | rfl | hc
    · exact hzero c (by simp [hc])
    · decide
    · exact plain.no_zero c hc
  · have htext : (directory ++ "/" ++ name).toList = directory.toList ++ '/' :: name.toList := by
      simp
    rw [if_neg (by decide), if_neg (by simp [hdirectory, hend]), htext,
      spelled_append_name plain, spelled_append_end hne]
    refine ⟨by simp, fun c hc => ?_, rfl⟩
    simp only [List.mem_append, List.mem_cons] at hc
    rcases hc with hc | rfl | hc
    · exact hzero c hc
    · decide
    · exact plain.no_zero c hc

/-- A directory's text with the slash behind it that a name needs. -/
def withSlash (directory : String) : String :=
  if directory = "" ∨ directory.toList.getLast? = some '/' then directory else directory ++ "/"

/-- **A plain name is put behind the directory's text.** -/
theorem join_of_plain {name : String} (plain : IsPlainName name) (directory : String) :
    join directory name = withSlash directory ++ name := by
  rw [join, isAbsolute_of_plain plain, if_neg (by decide), withSlash]
  split <;> rfl

/-- **Where a directory lies**; the empty path means the directory at hand. -/
def placeOf? (directory : String) : Option (List String) :=
  if directory = "" then some [] else parts directory

theorem placeOf?_of_parts {directory : String} {place : List String}
    (h : parts directory = some place) : placeOf? directory = some place := by
  have hne : directory ≠ "" := by
    rintro rfl
    cases h
  rw [placeOf?, if_neg hne, h]

theorem parts_of_plain {name : String} (plain : IsPlainName name) : parts name = some [name] := by
  have hne : name.toList ≠ [] := fun h => plain.ne_empty (String.toList_eq_nil_iff.mp h)
  have hhead : name.toList.head? ≠ some '/' := fun h => plain.no_slash (List.mem_of_head? h)
  refine parts_eq_some_iff.mpr ⟨hne, plain.no_zero, ?_⟩
  rw [spelled, namesFrom_of_no_slash plain.no_slash, if_neg hhead]
  simp [stepInto_plain plain]

/-- **A plain name in a directory** lies at the directory's place and the name, also in the
directory at hand. -/
theorem parts_join_of_placeOf? {directory name : String} {place : List String}
    (h : placeOf? directory = some place) (plain : IsPlainName name) :
    parts (join directory name) = some (place ++ [name]) := by
  by_cases hempty : directory = ""
  · rw [placeOf?, if_pos hempty] at h
    obtain rfl := Option.some.inj h
    rw [hempty, join_of_plain plain, withSlash, if_pos (.inl rfl), String.empty_append]
    exact parts_of_plain plain
  · rw [placeOf?, if_neg hempty] at h
    exact parts_join h plain

/-- A path that ends in neither a slash nor a dot can mean a file. -/
theorem meansDirectory_eq_false {path : String} {c : Char} (h : path.toList.getLast? = some c)
    (hslash : c ≠ '/') (hdot : c ≠ '.') : meansDirectory path = false := by
  obtain ⟨cs, hcs⟩ := List.getLast?_eq_some_iff.mp h
  unfold meansDirectory
  rw [hcs, List.reverse_concat]
  split <;> simp_all

end Storage

/-! ## What a file holds -/

namespace Content

theorem bytes_ofBytes (bytes : List UInt8) : (ofBytes bytes).bytes = bytes := by
  unfold ofBytes String.fromUTF8?
  split
  · rename_i s hs
    split at hs
    · cases hs
      rfl
    · cases hs
  · rfl

/-- **A line more** is its bytes and a line feed behind the others, whether they are text or not. -/
theorem bytes_addLine (line : String) (c : Content) :
    (c.addLine line).bytes = c.bytes ++ (line ++ "\n").toUTF8.data.toList := by
  cases c with
  | text s => simp [addLine, bytes]
  | binary bytes => exact bytes_ofBytes _

end Content

namespace Folder

variable {f g : Folder} {place other : List String} {places : List (List String)} {name : String}
  {node : Node} {path : String}

/-! ## Nodes at their places -/

theorem lookup_replace (place other : List String) (node : Node)
    (nodes : List (List String × Node)) :
    (replace place node nodes).lookup other
      = if other = place then some node else nodes.lookup other := by
  induction nodes with
  | nil =>
    by_cases h : other = place <;> simp [replace, h]
  | cons e es ih =>
    obtain ⟨there, kept⟩ := e
    by_cases he : there = place
    · by_cases h : other = place
      · simp [replace, he, h]
      · have hb : (other == place) = false := by simpa using h
        simp [replace, he, h, List.lookup_cons, hb]
    · by_cases h : other = there
      · have hne : other ≠ place := by rw [h]; exact he
        simp [replace, he, h]
      · have hb : (other == there) = false := by simpa using h
        simp [replace, he, List.lookup_cons, hb, ih]

/-- **A place where there is always a directory.** -/
def IsTop (place : List String) : Prop := place = [] ∨ place = ["/"]

theorem at?_of_top (h : IsTop place) (f : Folder) : f.at? place = some .directory := if_pos h

theorem at?_of_not_top (h : ¬ IsTop place) (f : Folder) : f.at? place = f.nodes.lookup place :=
  if_neg h

theorem at?_put_self (h : ¬ IsTop place) (f : Folder) (node : Node) :
    (f.put place node).at? place = some node := by
  rw [at?_of_not_top h, put, lookup_replace, if_pos rfl]

/-- **The other places keep what they have.** -/
theorem at?_put_of_ne (h : other ≠ place) (f : Folder) (node : Node) :
    (f.put place node).at? other = f.at? other := by
  by_cases htop : IsTop other
  · rw [at?_of_top htop, at?_of_top htop]
  · rw [at?_of_not_top htop, at?_of_not_top htop, put, lookup_replace, if_neg h]

/-! ## What a directory holds -/

/-- The name under which a node lies in a directory, if it lies there. -/
def nameIn (place : List String) (e : List String × Node) : Option (String × Node) :=
  match e.1.getLast? with
  | some name => if e.1.dropLast = place then some (name, e.2) else none
  | none => none

/-- **What lies right below a place**, by name. -/
def below (f : Folder) (place : List String) : List (String × Node) :=
  f.nodes.filterMap (nameIn place)

/-- The children of a directory are what lies below its parts, sorted. -/
theorem children_perm (h : Storage.parts path = some place) (f : Folder) :
    (f.children path).Perm (f.below place) := by
  rw [children, h]
  exact List.mergeSort_perm _ _

theorem nameIn_child (place : List String) (name : String) (node : Node) :
    nameIn place (place ++ [name], node) = some (name, node) := by
  simp [nameIn]

theorem nameIn_eq_none (h : ∀ name, other ≠ place ++ [name]) (node : Node) :
    nameIn place (other, node) = none := by
  unfold nameIn
  cases hlast : other.getLast? with
  | none => rfl
  | some name =>
    obtain ⟨front, rfl⟩ := List.getLast?_eq_some_iff.mp hlast
    refine if_neg fun hfront => h name ?_
    rw [← hfront, List.dropLast_concat]

theorem lookup_below (f : Folder) (place : List String) (name : String) :
    (f.below place).lookup name = f.nodes.lookup (place ++ [name]) := by
  unfold below
  induction f.nodes with
  | nil => rfl
  | cons e es ih =>
    obtain ⟨there, node⟩ := e
    by_cases hchild : ∃ n, there = place ++ [n]
    · obtain ⟨n, rfl⟩ := hchild
      rw [List.filterMap_cons, nameIn_child]
      by_cases hn : name = n
      · simp [hn]
      · have hb : (name == n) = false := by simpa using hn
        have hb' : (place ++ [name] == place ++ [n]) = false := by simpa using hn
        simp only [List.lookup_cons, hb, hb', ih]
    · have hne : there ≠ place ++ [name] := fun h => hchild ⟨name, h⟩
      have hb : (place ++ [name] == there) = false := by simpa using Ne.symm hne
      rw [List.filterMap_cons, nameIn_eq_none (fun n h => hchild ⟨n, h⟩)]
      simp only [List.lookup_cons, hb, ih]

/-- A node that is put elsewhere is no matter of the place. -/
theorem below_put_of_ne (h : ∀ name, other ≠ place ++ [name]) (f : Folder) (node : Node) :
    (f.put other node).below place = f.below place := by
  simp only [below, put]
  induction f.nodes with
  | nil => simp [replace, nameIn_eq_none h]
  | cons e es ih =>
    obtain ⟨there, old⟩ := e
    by_cases he : there = other
    · subst he
      simp [replace, nameIn_eq_none h]
    · simp only [replace, if_neg he, List.filterMap_cons, ih]

/-- **A node that is put right below a place** is one name more, unless the name is there. -/
theorem names_below_put (f : Folder) (place : List String) (name : String) (node : Node) :
    ((f.put (place ++ [name]) node).below place).map Prod.fst
      = if name ∈ (f.below place).map Prod.fst then (f.below place).map Prod.fst
        else (f.below place).map Prod.fst ++ [name] := by
  have hnodes : ∀ nodes : List (List String × Node),
      ((replace (place ++ [name]) node nodes).filterMap (nameIn place)).map Prod.fst
        = if name ∈ (nodes.filterMap (nameIn place)).map Prod.fst
          then (nodes.filterMap (nameIn place)).map Prod.fst
          else (nodes.filterMap (nameIn place)).map Prod.fst ++ [name] := by
    intro nodes
    induction nodes with
    | nil => simp [replace, nameIn_child]
    | cons e es ih =>
      obtain ⟨there, old⟩ := e
      by_cases hself : there = place ++ [name]
      · subst hself
        simp [replace, nameIn_child]
      · rw [replace, if_neg hself]
        by_cases hchild : ∃ n, there = place ++ [n]
        · obtain ⟨n, rfl⟩ := hchild
          have hn : name ≠ n := fun h => hself (by rw [h])
          rw [List.filterMap_cons, List.filterMap_cons, nameIn_child, List.map_cons, ih,
            List.map_cons]
          by_cases hmem : name ∈ (es.filterMap (nameIn place)).map Prod.fst
          · rw [if_pos hmem, if_pos (List.mem_cons_of_mem n hmem)]
          · rw [if_neg hmem, if_neg fun h => (List.mem_cons.mp h).elim hn hmem, List.cons_append]
        · have hnone := nameIn_eq_none fun n h => hchild ⟨n, h⟩
          rw [List.filterMap_cons, List.filterMap_cons, hnone, ih]
  exact hnodes f.nodes

/-- No name comes twice, when none did before. -/
theorem nodup_names_below_put (h : ((f.below place).map Prod.fst).Nodup) (name : String)
    (node : Node) : (((f.put (place ++ [name]) node).below place).map Prod.fst).Nodup := by
  rw [names_below_put]
  by_cases hmem : name ∈ (f.below place).map Prod.fst
  · rwa [if_pos hmem]
  · rw [if_neg hmem, List.nodup_append]
    refine ⟨h, by simp, fun a ha b hb hab => hmem ?_⟩
    rwa [← List.mem_singleton.mp hb, ← hab]

theorem mem_names_below_put (f : Folder) (place : List String) (name other : String)
    (node : Node) : other ∈ ((f.put (place ++ [name]) node).below place).map Prod.fst
      ↔ other ∈ (f.below place).map Prod.fst ∨ other = name := by
  rw [names_below_put]
  by_cases hmem : name ∈ (f.below place).map Prod.fst
  · rw [if_pos hmem]
    exact ⟨.inl, fun h => h.elim id fun h => h ▸ hmem⟩
  · rw [if_neg hmem, List.mem_append, List.mem_singleton]

/-! ## Directories that are made -/

/-- **Every place has a directory.** -/
def HasDirectories (f : Folder) (places : List (List String)) : Prop :=
  ∀ p ∈ places, f.at? p = some .directory

/-- Where all directories are there, none is made. -/
theorem makeAt_of_hasDirectories (h : f.HasDirectories places) : f.makeAt places = .ok f := by
  induction places with
  | nil => rfl
  | cons p places ih =>
    rw [makeAt, h p List.mem_cons_self]
    exact ih fun q hq => h q (List.mem_cons_of_mem _ hq)

variable (place) in
/-- **Directories that were made are there**; what else is there was there before. -/
theorem makeAt_ok (h : f.makeAt places = .ok g) : g.HasDirectories places
    ∧ (∀ p, f.at? p = some .directory → g.at? p = some .directory)
    ∧ ((∀ p ∈ places, ∀ name, p ≠ place ++ [name]) → g.below place = f.below place) := by
  induction places generalizing f with
  | nil =>
    obtain rfl := Except.ok.inj h
    exact ⟨fun p hp => absurd hp List.not_mem_nil, fun _ hp => hp, fun _ => rfl⟩
  | cons p places ih =>
    rw [makeAt] at h
    cases hp : f.at? p with
    | some node =>
      cases node with
      | file c => simp [hp] at h
      | directory =>
        rw [hp] at h
        obtain ⟨hthere, hkept, hbelow⟩ := ih h
        refine ⟨fun q hq => ?_, hkept, fun hne => hbelow fun q hq => hne q (.tail _ hq)⟩
        rcases List.mem_cons.mp hq with rfl | hq
        · exact hkept q hp
        · exact hthere q hq
    | none =>
      rw [hp] at h
      dsimp only at h
      split at h
      · have htop : ¬ IsTop p := fun htop => by simp [at?_of_top htop] at hp
        obtain ⟨hthere, hkept, hbelow⟩ := ih h
        refine ⟨fun q hq => ?_, fun q hq => hkept q ?_, fun hne => ?_⟩
        · rcases List.mem_cons.mp hq with rfl | hq
          · exact hkept q (at?_put_self htop f _)
          · exact hthere q hq
        · have hne : q ≠ p := by
            rintro rfl
            simp [hp] at hq
          rw [at?_put_of_ne hne, hq]
        · rw [hbelow fun q hq => hne q (.tail _ hq), below_put_of_ne (hne p List.mem_cons_self)]
      · cases h

/-- Where no directory was to be made, all is as before. -/
theorem at?_of_makeAt (h : f.makeAt places = .ok g) (hother : other ∉ places) :
    g.at? other = f.at? other := by
  induction places generalizing f with
  | nil => rw [Except.ok.inj h]
  | cons p places ih =>
    have hne : other ≠ p := fun heq => hother (heq ▸ List.mem_cons_self)
    have hrest : other ∉ places := fun hp => hother (List.mem_cons_of_mem _ hp)
    rw [makeAt] at h
    split at h
    · exact ih h hrest
    · cases h
    · split at h
      · rw [ih h hrest, at?_put_of_ne hne]
      · cases h

/-- The places of a directory and of those above it. -/
def upTo (place : List String) : List (List String) := above place ++ [place]

theorem length_le_of_mem_upTo {p : List String} (h : p ∈ upTo place) :
    p.length ≤ place.length := by
  simp only [upTo, above, List.mem_append, List.mem_map, List.mem_range, List.mem_singleton] at h
  rcases h with ⟨n, -, rfl⟩ | rfl
  · exact List.length_take_le' n place
  · exact Nat.le_refl _

/-- No directory above a place lies below it. -/
theorem ne_child_of_mem_upTo {p : List String} (h : p ∈ upTo place) (name : String) :
    p ≠ place ++ [name] := by
  rintro rfl
  exact absurd (length_le_of_mem_upTo h) (by simp)

theorem makeDirectory_eq (h : Storage.parts path = some place) (f : Folder) :
    f.makeDirectory path = f.makeAt (upTo place) := by
  have hne : path ≠ "" := by
    rintro rfl
    cases h
  rw [makeDirectory, if_neg hne, h]
  rfl

/-- **A directory that was made is there**, with those above it, and holds what it did before. -/
theorem makeDirectory_ok (h : Storage.parts path = some place)
    (hmade : f.makeDirectory path = .ok g) :
    g.HasDirectories (upTo place) ∧ g.below place = f.below place := by
  rw [makeDirectory_eq h] at hmade
  obtain ⟨hthere, -, hbelow⟩ := makeAt_ok place hmade
  exact ⟨hthere, hbelow fun p hp name => ne_child_of_mem_upTo hp name⟩

/-- **A directory that could be made lies somewhere**, and what lies right below it is as before. -/
theorem exists_place_of_makeDirectory (h : f.makeDirectory path = .ok g) :
    ∃ place, Storage.placeOf? path = some place
      ∧ ∀ name, g.at? (place ++ [name]) = f.at? (place ++ [name]) := by
  by_cases hempty : path = ""
  · rw [makeDirectory, if_pos hempty] at h
    obtain rfl := Except.ok.inj h
    exact ⟨[], if_pos hempty, fun _ => rfl⟩
  · cases hparts : Storage.parts path with
    | none =>
      rw [makeDirectory, if_neg hempty, hparts] at h
      cases h
    | some place =>
      rw [makeDirectory_eq hparts] at h
      exact ⟨place, Storage.placeOf?_of_parts hparts, fun name =>
        at?_of_makeAt h fun hmem => ne_child_of_mem_upTo hmem name rfl⟩

/-! ## Lines that are appended -/

/-- A plain name lies below a place, so there it is not where there is always a directory. -/
theorem not_isTop_of_plain (plain : Storage.IsPlainName name) (place : List String) :
    ¬ IsTop (place ++ [name]) := by
  rintro (hnil | hroot)
  · simp at hnil
  · have hlast := congrArg List.getLast? hroot
    rw [List.getLast?_concat, List.getLast?_singleton] at hlast
    exact plain.no_slash (Option.some.inj hlast ▸ List.mem_cons_self)

/-- **A line is appended to a file of a directory that is there**: to the text it has, or to
none. -/
theorem append_child (h : Storage.parts path = some (place ++ [name]))
    (fits : Storage.nameFits name = true) (hplace : f.at? place = some .directory) {c : Content}
    (hc : f.at? (place ++ [name]) = some (.file c)
      ∨ f.at? (place ++ [name]) = none ∧ c = .text "") (line : String) :
    f.append path line = .ok (f.put (place ++ [name]) (.file (c.addLine line))) := by
  rw [append, h]
  simp only [List.getLast?_concat, Option.all_some, fits, Bool.not_true, Bool.false_eq_true,
    if_false, List.dropLast_concat, hplace]
  rcases hc with hc | ⟨hc, rfl⟩ <;> rw [hc]

/-- **A line that was appended** is behind what the file had, or behind nothing; all else is as
before. -/
theorem append_eq_ok {line : String} (h : Storage.parts path = some (place ++ [name]))
    (happend : f.append path line = .ok g) : ∃ c : Content,
      (f.at? (place ++ [name]) = some (.file c)
        ∨ f.at? (place ++ [name]) = none ∧ c = .text "")
      ∧ g = f.put (place ++ [name]) (.file (c.addLine line)) := by
  rw [append, h] at happend
  dsimp only at happend
  split at happend
  · cases happend
  · split at happend
    · cases happend
    · cases happend
      exact ⟨_, .inl ‹_›, rfl⟩
    · cases happend
      exact ⟨_, .inr ⟨‹_›, rfl⟩, rfl⟩
    · cases happend
    · cases happend

/-- What there is at a path that can mean a file. -/
theorem node?_eq (h : Storage.parts path = some place)
    (hfile : Storage.meansDirectory path = false) : f.node? path = f.at? place := by
  cases hnode : f.at? place <;> simp [node?, h, hnode, hfile]

/-- A file of a directory is read at its name. -/
theorem read_child (h : Storage.parts path = some (place ++ [name]))
    (hfile : Storage.meansDirectory path = false) {text : String}
    (hnode : f.at? (place ++ [name]) = some (.file (.text text))) : f.read path = .ok text := by
  rw [read, node?_eq h hfile, hnode]

/-! ## What a file gains -/

/-- The bytes of a line and of the line feed behind it. -/
def lineBytes (line : List Char) : List UInt8 := (String.ofList line ++ "\n").toUTF8.data.toList

/-- The bytes of the file at a path; none when there is no file. -/
def bytesAt (f : Folder) (path : String) : List UInt8 :=
  match f.node? path with
  | some (.file c) => c.bytes
  | _ => []

/-- **A path gains some lines** behind the bytes it has; without any, it stays as it is. -/
inductive Gains (f : Folder) (path : String) : List (List Char) → Folder → Prop
  | nothing {g : Folder} (same : g.node? path = f.node? path) : Gains f path [] g
  | lines {g : Folder} {ls : List (List Char)} {c : Content} (nonempty : ls ≠ [])
      (file : g.node? path = some (.file c))
      (bytes : c.bytes = f.bytesAt path ++ ls.flatMap lineBytes) : Gains f path ls g

theorem Gains.bytesAt_eq {ls : List (List Char)} (h : Gains f path ls g) :
    g.bytesAt path = f.bytesAt path ++ ls.flatMap lineBytes := by
  cases h with
  | nothing same => rw [bytesAt, same, List.flatMap_nil, List.append_nil, bytesAt]
  | lines _ file bytes => rw [bytesAt, file, ← bytes]

/-- What a path gains later is behind what it gained before. -/
theorem Gains.append {ls more : List (List Char)} {k : Folder} (h : Gains f path ls g)
    (hmore : Gains g path more k) : Gains f path (ls ++ more) k := by
  cases hmore with
  | nothing same =>
    rw [List.append_nil]
    cases h with
    | nothing same' => exact .nothing (same.trans same')
    | lines nonempty file bytes => exact .lines nonempty (same.trans file) bytes
  | lines nonempty file bytes =>
    refine .lines (List.append_ne_nil_of_right_ne_nil _ nonempty) file ?_
    rw [bytes, h.bytesAt_eq, List.flatMap_append, List.append_assoc]

end Folder

end ChatFeed
