import DynamicRpc.Proofs.Reflection.Shelves

/-!
Lookups at a service with a fixed set of files. The files of an answer and the imports that are
asked for after it all belong to the set, so each import brings the end nearer; once none is missing
the files can be cached, and the name is found among them. This holds whatever was looked up, given
up or refused before, and however many files the service adds to its answers.
-/
namespace DynamicRpc.Reflection

open Schema Resolver

namespace Catalog

variable {F : Catalog} {c : Connector} {r r' : Resolver} {q : Query} {f : FileDecl}
  {target file dependency name : String} {patience : Nat} {batch : List FileDecl}

/-! Queries that do not fail -/

/-- Asking for files brings files, if files are the last thing that was waited for. -/
theorem fetching_done {o : Outcome ResolveError (List Bytes)} (x : Fetching c r q o r')
    (hq : q ≠ .services) (ends : r'.transport.history.EndsWithFiles)
    (reachable : o ≠ .failed (.transport .closed)) : ∃ encoded, o = .done encoded := by
  cases x with
  | files encoded t h => exact ⟨encoded, rfl⟩
  | refused o s t h ho =>
    refine absurd ends (Transport.send_not_endsWithFiles h hq ?_ ?_)
    · rcases ho with rfl | rfl <;> exact nofun
    · rcases ho with rfl | rfl <;> exact nofun
  | broken e t h he =>
    refine absurd ends (Transport.send_not_endsWithFiles h hq nofun ?_)
    rintro ⟨⟩
    exact reachable rfl
  | services names t h => exact absurd ends (Transport.send_not_endsWithFiles h hq nofun nofun)
  | dropped t h => exact absurd ends (Transport.send_not_endsWithFiles h hq nofun nofun)

/-- The service has all imports of the catalog. -/
theorem importing_done {o : Outcome ResolveError (List FileDecl)} (served : F.ServedBy c)
    (hr : r.transport.Reached c) (hf : f ∈ F.files) (x : Importing c target file f.path r o r')
    (ends : r'.transport.history.EndsWithFiles) (reachable : o ≠ .failed (.transport .closed)) :
    ∃ files, o = .done files := by
  cases x with
  | received encoded files r₁ x hd mem => exact ⟨files, rfl⟩
  | absent encoded files r₁ x hd mem =>
    exact absurd (List.mem_map_of_mem (served.imports f hf files (x.sendsAll hr hd))) mem
  | undecodable encoded e r₁ x hd =>
    obtain ⟨files, decoded⟩ := served.decodes _ encoded (x.answers hr)
    rw [hd] at decoded
    cases decoded
  | unknown s r₁ x code =>
    cases x with
    | refused o s t h ho => exact absurd code (served.known f hf o s ⟨_, t, hr, h⟩ ho)
  | failed e r₁ x code =>
    obtain ⟨encoded, done⟩ := fetching_done x nofun ends (by rintro ⟨⟩; exact reachable rfl)
    cases done
  | dropped r₁ x =>
    obtain ⟨encoded, done⟩ := fetching_done x nofun ends nofun
    cases done

/-! Completing a batch -/

/-- How many files of the catalog a batch does not hold. -/
def outside (F : Catalog) (batch : List FileDecl) : Nat :=
  F.files.countP fun f => !(batch.map (·.path)).contains f.path

theorem outside_le : F.outside batch ≤ F.files.length := List.countP_le_length

/-- What a longer batch does not hold, its start does not hold. -/
theorem not_contains_of_append (more : List FileDecl) (g : FileDecl)
    (h : !((batch ++ more).map (·.path)).contains g.path) :
    !(batch.map (·.path)).contains g.path := by
  simp only [List.map_append, Bool.not_eq_true', List.contains_eq_mem, decide_eq_false_iff_not,
    List.mem_append, not_or] at h ⊢
  exact h.1

theorem outside_append_le (more : List FileDecl) : F.outside (batch ++ more) ≤ F.outside batch :=
  List.countP_mono_left fun g _ => not_contains_of_append more g

/-- A batch that gets a file of the catalog that it did not hold has fewer left to get. -/
theorem outside_append_lt {more : List FileDecl} (hf : f ∈ F.files)
    (new : f.path ∉ batch.map (·.path)) (mem : f.path ∈ more.map (·.path)) :
    F.outside (batch ++ more) < F.outside batch := by
  refine countP_lt (not_contains_of_append more) hf (by simpa using new) ?_
  rw [List.map_append, Bool.not_eq_false', List.contains_eq_mem, decide_eq_true_eq]
  exact List.mem_append_right _ mem

/-- A batch of the catalog gets complete, unless a query fails or the caller loses patience. With
patience for all files the caller does not lose it. -/
theorem completing_done {o : Outcome ResolveError (List FileDecl)} (served : F.ServedBy c)
    (x : Completing c target patience r batch o r') (kept : F.Kept c r) (hb : batch ⊆ F.files)
    (ends : r'.transport.history.EndsWithFiles) (reachable : o ≠ .failed (.transport .closed))
    (waits : o ≠ .dropped ∨ F.outside batch ≤ patience) :
    ∃ closed, o = .done closed ∧ batch ⊆ closed ∧ closed ⊆ F.files ∧
      r'.cache.missing closed = [] := by
  induction x with
  | closed patience r batch none => exact ⟨batch, rfl, List.Subset.refl _, hb, none⟩
  | remembered patience r r' batch o file dependency f first found rest ih =>
    have hf : f ∈ F.files := kept.fetched served found
    have hb' : batch ++ [f] ⊆ F.files := List.append_subset.2 ⟨hb, by simpa using hf⟩
    obtain ⟨closed, done, mem, subset, none⟩ :=
      ih kept hb' ends reachable (waits.imp_right (outside_append_le [f]).trans)
    exact ⟨closed, done, (List.append_subset.1 mem).1, subset, none⟩
  | unavailable patience r batch file dependency s first new known =>
    obtain ⟨⟨f, hf, rfl⟩, _⟩ := missed hb first
    rw [kept.unavailable? (List.mem_map_of_mem hf)] at known
    cases known
  | givenUp r batch file dependency first forgot =>
    obtain ⟨⟨f, hf, rfl⟩, absent⟩ := missed hb first
    rcases waits with waits | waits
    · exact absurd rfl waits
    · have fewer : F.outside (batch ++ [f]) < F.outside batch :=
        outside_append_lt hf absent (by simp)
      omega
  | received patience r r₁ r' batch files o file dependency first forgot x rest ih =>
    obtain ⟨⟨f, hf, rfl⟩, absent⟩ := missed hb first
    have sent := x.sendsAll kept.traced.reached
    have hb' : batch ++ files ⊆ F.files :=
      List.append_subset.2 ⟨hb, fun g hg => served.only g (sent.sends g hg)⟩
    have fewer := outside_append_lt hf absent x.mem_paths
    obtain ⟨closed, done, mem, subset, none⟩ :=
      ih (kept.steps served (x.steps kept.traced.reached)) hb' ends reachable
        (waits.imp_right fun _ => by omega)
    exact ⟨closed, done, (List.append_subset.1 mem).1, subset, none⟩
  | failed patience r r₁ batch e file dependency first forgot x =>
    obtain ⟨⟨f, hf, rfl⟩, _⟩ := missed hb first
    obtain ⟨files, done⟩ := importing_done served kept.traced.reached hf x ends reachable
    cases done
  | dropped patience r r₁ batch file dependency first forgot x =>
    obtain ⟨⟨f, hf, rfl⟩, _⟩ := missed hb first
    obtain ⟨files, done⟩ := importing_done served kept.traced.reached hf x ends nofun
    cases done

/-! Lookups -/

/-- The waits of a resolver are never forgotten. -/
theorem length_le_of_step (x : Step c r r') :
    r.transport.history.length ≤ r'.transport.history.length := by
  cases x with
  | asked q o t h => exact Transport.length_le_of_send h
  | remembered files hf => rw [foldl_remember]
  | givenUp => exact (Transport.history_reset r.transport).symm ▸ Nat.le_refl _
  | reset => exact (Transport.history_reset r.transport).symm ▸ Nat.le_refl _
  | _ => exact Nat.le_refl _

theorem length_le_of_steps (x : Steps c r r') :
    r.transport.history.length ≤ r'.transport.history.length :=
  x.keep (P := fun s => r.transport.history.length ≤ s.transport.history.length)
    (fun _ _ h x => h.trans (length_le_of_step x)) (Nat.le_refl _)

theorem fetching_grows {o : Outcome ResolveError (List Bytes)} (x : Fetching c r q o r')
    (reachable : o ≠ .failed (.transport .closed)) :
    r.transport.history.length < r'.transport.history.length := by
  cases x with
  | files encoded t h => exact (Transport.send_grows h).resolve_right nofun
  | refused o s t h ho =>
    refine (Transport.send_grows h).resolve_right ?_
    rintro ⟨rfl, _⟩
    rcases ho with ho | ho <;> cases ho
  | broken e t h he =>
    refine (Transport.send_grows h).resolve_right ?_
    rintro ⟨closed, _⟩
    cases closed
    exact reachable rfl
  | services names t h => exact (Transport.send_grows h).resolve_right nofun
  | dropped t h => exact (Transport.send_grows h).resolve_right nofun

/-- A history that got longer and still counts as undisturbed ends with files. -/
theorem ends_of_grown {h h' : History} (answered : h' = h ∨ h'.EndsWithFiles)
    (later : h.length < h'.length) : h'.EndsWithFiles := by
  refine answered.resolve_left fun same => ?_
  rw [same] at later
  exact Nat.lt_irrefl _ later

/-- Once the service has answered for a name, the batch of its answer gets complete. -/
theorem answered_done {o : Outcome ResolveError (List FileDecl)} {r₁ r₂ : Resolver}
    {encoded : List Bytes} (served : F.ServedBy c) (kept : F.Kept c r) (hf : f ∈ F.files)
    (defines : f.Defines name) (x : Fetching c r (.symbol name) (.done encoded) r₁)
    (hd : decodeFiles encoded = .ok batch) (y : Completing c name patience r₁ batch o r₂)
    (answered : r₂.transport.history = r.transport.history ∨ r₂.transport.history.EndsWithFiles)
    (reachable : o ≠ .failed (.transport .closed))
    (waits : o ≠ .dropped ∨ F.files.length ≤ patience) :
    F.Kept c r₂ ∧ ∃ closed, o = .done closed ∧ f ∈ closed ∧ closed ⊆ F.files ∧
      r₂.cache.missing closed = [] := by
  have sent := x.sendsAll kept.traced.reached hd
  have kept₁ : F.Kept c r₁ := kept.step served x.step
  have hb : batch ⊆ F.files := fun g hg => served.only g (sent.sends g hg)
  have mem : f ∈ batch := served.symbols f hf name defines batch sent
  have steps := y.steps kept₁.traced
  have later : r.transport.history.length < r₂.transport.history.length := by
    have first := fetching_grows x nofun
    have rest := length_le_of_steps steps
    omega
  obtain ⟨closed, done, more, subset, none⟩ := completing_done served y kept₁ hb
    (ends_of_grown answered later) reachable (waits.imp_right outside_le.trans)
  exact ⟨kept₁.steps served steps, closed, done, more mem, subset, none⟩

/-- A lookup of a name of the catalog ends with what the cache then has for it. -/
theorem looking_done {o : Outcome ResolveError Descriptor} (served : F.ServedBy c)
    (kept : F.Kept c r) (hf : f ∈ F.files) (defines : f.Defines name)
    (undotted : withoutDot name = name)
    (x : Looking c patience r (·.find? name) (.symbol name) name (.unknownSymbol name) o r')
    (quiet : Undisturbed r r' o) (waits : o ≠ .dropped ∨ F.files.length ≤ patience) :
    ∃ d, o = .done d ∧ r'.cache.find? name = some d := by
  cases x with
  | cached d known => exact ⟨d, rfl, known⟩
  | unknown s r₁ new x code =>
    have ends := ends_of_grown quiet.answered (fetching_grows x nofun)
    obtain ⟨_, done⟩ := fetching_done x nofun ends nofun
    cases done
  | failed e r₁ new x code =>
    have reachable : Outcome.failed e ≠ (.failed (.transport .closed) :
        Outcome ResolveError (List Bytes)) := by
      rintro ⟨⟩
      exact quiet.reachable rfl
    have ends := ends_of_grown quiet.answered (fetching_grows x reachable)
    obtain ⟨_, done⟩ := fetching_done x nofun ends reachable
    cases done
  | dropped r₁ new x =>
    have ends := ends_of_grown quiet.answered (fetching_grows x nofun)
    obtain ⟨_, done⟩ := fetching_done x nofun ends nofun
    cases done
  | undecodable encoded e r₁ new x hd =>
    obtain ⟨files, decoded⟩ := served.decodes _ encoded (x.answers kept.traced.reached)
    rw [hd] at decoded
    cases decoded
  | incomplete encoded batch e r₁ r₂ new x hd y =>
    have reachable : Outcome.failed e ≠ (.failed (.transport .closed) :
        Outcome ResolveError (List FileDecl)) := by
      rintro ⟨⟩
      exact quiet.reachable rfl
    obtain ⟨_, _, done, _⟩ := answered_done served kept hf defines x hd y quiet.answered reachable
      (.inl nofun)
    cases done
  | givenUp encoded batch r₁ r₂ new x hd y =>
    have patient : F.files.length ≤ patience := waits.resolve_left fun waits => waits rfl
    obtain ⟨_, _, done, _⟩ := answered_done served kept hf defines x hd y quiet.answered nofun
      (.inr patient)
    cases done
  | refused encoded batch closed e r₁ r₂ new x hd y hi =>
    obtain ⟨kept₂, _, ⟨⟩, _, subset, none⟩ := answered_done served kept hf defines x hd y
      quiet.answered nofun (.inl nofun)
    obtain ⟨n, cache, inserted⟩ := insert_ok _ kept₂.built kept₂.cached subset none
    rw [hi] at inserted
    cases inserted
  | answered encoded batch closed cache n d r₁ r₂ new x hd y hi found => exact ⟨d, rfl, found⟩
  | absent encoded batch closed cache n r₁ r₂ new x hd y hi missing =>
    have answered := quiet.answered
    obtain ⟨kept₂, _, ⟨⟩, mem, subset, none⟩ := answered_done served kept hf defines x hd y
      answered nofun (.inl nofun)
    obtain ⟨d, found⟩ := find?_of_insert kept₂.built kept₂.cached subset hi hf mem
      (undotted.symm ▸ defines)
    rw [missing] at found
    cases found

/-- Whatever was looked up before and however it ended, a lookup in which no query fails finds what
the catalog makes of the name. -/
theorem defined_names_are_found (served : F.ServedBy c) (choice : Option Dialect)
    (ops : List Operation) (hf : f ∈ F.files) (defines : f.Defines name)
    (undotted : name.toList.head? ≠ some '.') {o : Outcome ResolveError Descriptor}
    (hr : run c (.ofChoice choice) ops = r) (h : r.find c patience name = (o, r'))
    (quiet : Undisturbed r r' o) (waits : o ≠ .dropped ∨ F.files.length ≤ patience) :
    ∃ d, o = .done d ∧ F.Describes f name d := by
  have kept : F.Kept c r := hr ▸ kept_run served choice ops
  have plain : withoutDot name = name := withoutDot_eq undotted
  have x := lookup_looking c patience r (·.find? name) (.symbol name) name (.unknownSymbol name)
  rw [← Resolver.find, h] at x
  obtain ⟨d, done, found⟩ := looking_done served kept hf defines plain x quiet waits
  have kept' := kept.steps served (x.steps kept.traced)
  exact ⟨d, done, describes_of_find? kept'.built kept'.cached hf (plain.symm ▸ defines) found⟩

/-! A file whose import has to be asked for, after a lookup that was given up -/

/-- The file `item.proto` with a message `shop.Item`, which holds a `shop.Base`. -/
def itemFile : Bytes :=
  [10, 10, 105, 116, 101, 109, 46, 112, 114, 111, 116, 111, 18, 4, 115, 104, 111, 112, 26, 10,
  98, 97, 115, 101, 46, 112, 114, 111, 116, 111, 34, 32, 10, 4, 73, 116, 101, 109, 18, 24, 10,
  4, 98, 97, 115, 101, 24, 1, 32, 1, 40, 11, 50, 10, 46, 115, 104, 111, 112, 46, 66, 97, 115,
  101, 98, 6, 112, 114, 111, 116, 111, 51]

/-- The file `base.proto` with a message `shop.Base`. -/
def baseFile : Bytes :=
  [10, 10, 98, 97, 115, 101, 46, 112, 114, 111, 116, 111, 18, 4, 115, 104, 111, 112, 34, 6, 10,
  4, 66, 97, 115, 101, 98, 6, 112, 114, 111, 116, 111, 51]

def shop : Shelf := .ofEncoded [itemFile, baseFile] (by decide +kernel)

theorem item_is_found : ∃ d,
    ((run shop.service (.ofChoice none) [.findExtension 2 "shop.Item" 5, .find 2 "shop.Gone"]).find
      shop.service 2 "shop.Item").1 = .done d ∧
    shop.Describes (decoded itemFile) "shop.Item" d := by
  have mem : decoded itemFile ∈ shop.files := List.mem_cons_self
  have defines : (decoded itemFile).Defines "shop.Item" := by decide +kernel
  have kept := kept_run shop.served none [.findExtension 2 "shop.Item" 5, .find 2 "shop.Gone"]
  have quiet := Shelf.undisturbed 2 kept mem defines (by decide +kernel) rfl
  exact defined_names_are_found shop.served none _ mem defines (by decide) rfl rfl quiet
    (.inr (by decide))

/-! Names with dots of their own -/

/-- The file `hidden.proto` with a message `X` in the package `.p`. -/
def dottedFile : Bytes :=
  [10, 12, 104, 105, 100, 100, 101, 110, 46, 112, 114, 111, 116, 111, 18, 2, 46, 112, 34, 3, 10,
  1, 88, 98, 6, 112, 114, 111, 116, 111, 51]

def dotted : Shelf := .ofEncoded [dottedFile] (by decide +kernel)

/-- The file `shifting.proto` with a message `X` inside `p`, a message that is named `q.p.X`, and a
message that is named `q.M` and has a field of the type `p.X`. -/
def shiftingFile : Bytes :=
  [10, 14, 115, 104, 105, 102, 116, 105, 110, 103, 46, 112, 114, 111, 116, 111, 34, 8, 10, 1,
  112, 26, 3, 10, 1, 88, 34, 7, 10, 5, 113, 46, 112, 46, 88, 34, 21, 10, 3, 113, 46, 77, 18, 14,
  10, 1, 102, 24, 1, 32, 1, 40, 11, 50, 3, 112, 46, 88, 98, 6, 112, 114, 111, 116, 111, 51]

/-- The file `other.proto` with a message `Z` in the package `q.p`. -/
def otherFile : Bytes :=
  [10, 11, 111, 116, 104, 101, 114, 46, 112, 114, 111, 116, 111, 18, 3, 113, 46, 112, 34, 3, 10,
  1, 90, 98, 6, 112, 114, 111, 116, 111, 51]

def shifting : Shelf := .ofEncoded [shiftingFile, otherFile] (by decide +kernel)

/-- The types of the fields of a message. -/
def fieldTypes : Descriptor → List FieldType
  | .message m => m.fields.map (·.type)
  | _ => []

/-- A name that starts with a dot is not found under it, though the file of the name is cached. -/
theorem leading_dot_hides : ∃ r,
    (ofChoice none).find dotted.service 1 ".p.X" = (.failed (.unknownSymbol ".p.X" none), r) ∧
    Undisturbed (ofChoice none) r (.failed (.unknownSymbol ".p.X" none)) := by
  have mem : decoded dottedFile ∈ dotted.files := List.mem_cons_self
  have defines : (decoded dottedFile).Defines ".p.X" := by decide +kernel
  have kept : dotted.Kept dotted.service (ofChoice none) := kept_ofChoice none
  obtain ⟨r, h, _⟩ := Shelf.find_of_closed 1 kept mem defines nofun
    (Option.isNone_iff_eq_none.1 (by decide +kernel)) (by decide +kernel)
  have absent :
      ((ofChoice none).cache.adding .asGiven (dotted.holding ".p.X")).find? ".p.X" = none :=
    Option.isNone_iff_eq_none.1 (by decide +kernel)
  rw [absent] at h
  exact ⟨r, h, Shelf.undisturbed 1 kept mem defines nofun h⟩

/-- Where a declaration has a dot in its own name, a lookup of another file can change what a
reference to it means. -/
theorem order_of_lookups_matters : ∃ d d' r r',
    (ofChoice none).find shifting.service 2 "q.M" = (.done d, r) ∧
    Undisturbed (ofChoice none) r (.done d) ∧
    (run shifting.service (ofChoice none) [.find 2 "q.p.Z"]).find shifting.service 2 "q.M" =
      (.done d', r') ∧
    Undisturbed (run shifting.service (ofChoice none) [.find 2 "q.p.Z"]) r' (.done d') ∧
    fieldTypes d = [.message "p.X"] ∧ fieldTypes d' = [.message "q.p.X"] := by
  have mem : decoded shiftingFile ∈ shifting.files := List.mem_cons_self
  have defines : (decoded shiftingFile).Defines "q.M" := by decide +kernel
  have kept : shifting.Kept shifting.service (ofChoice none) := kept_ofChoice none
  obtain ⟨r, h, _⟩ := Shelf.find_of_closed 2 kept mem defines nofun
    (Option.isNone_iff_eq_none.1 (by decide +kernel)) (by decide +kernel)
  have alone : (((ofChoice none).cache.adding .asGiven (shifting.holding "q.M")).find? "q.M").map
      fieldTypes = some [.message "p.X"] := by decide +kernel
  obtain ⟨d, found, types⟩ := Option.map_eq_some_iff.1 alone
  rw [found] at h
  -- The other file brings a package that the reference in the first is led into.
  have mem' : decoded otherFile ∈ shifting.files := List.mem_cons_of_mem _ List.mem_cons_self
  have defines' : (decoded otherFile).Defines "q.p.Z" := by decide +kernel
  obtain ⟨r₁, h₁, cached, hc⟩ := Shelf.find_of_closed 2 kept mem' defines' nofun
    (Option.isNone_iff_eq_none.1 (by decide +kernel)) (by decide +kernel)
  have before : run shifting.service (ofChoice none) [.find 2 "q.p.Z"] = r₁ :=
    congrArg Prod.snd h₁
  have kept₁ : shifting.Kept shifting.service r₁ := before ▸ kept_run shifting.served none _
  obtain ⟨r', h', _⟩ := Shelf.find_of_closed 2 kept₁ mem defines hc
    (Option.isNone_iff_eq_none.1 (by rw [cached]; decide +kernel))
    (by rw [cached]; decide +kernel)
  have later : ((((ofChoice none).cache.adding .asGiven (shifting.holding "q.p.Z")).adding .asGiven
      (shifting.holding "q.M")).find? "q.M").map fieldTypes = some [.message "q.p.X"] := by
    decide +kernel
  obtain ⟨d', found', types'⟩ := Option.map_eq_some_iff.1 later
  rw [cached, found'] at h'
  rw [before]
  exact ⟨d, d', r, r', h, Shelf.undisturbed 2 kept mem defines nofun h, h',
    Shelf.undisturbed 2 kept₁ mem defines hc h', types, types'⟩

/-- All lookups of a name in which no query fails find one descriptor, whatever was looked up
before. -/
def Settles (F : Catalog) (c : Connector) (name : String) : Prop :=
  ∃ d, ∀ (choice : Option Dialect) (ops : List Operation) (patience : Nat)
    (o : Outcome ResolveError Descriptor) (r' : Resolver),
    (run c (.ofChoice choice) ops).find c patience name = (o, r') →
    Undisturbed (run c (.ofChoice choice) ops) r' o → o ≠ .dropped ∨ F.files.length ≤ patience →
    o = .done d

/-- Neither name is settled, although each is defined in a catalog that is served. -/
theorem dots_mislead :
    (dotted.ServedBy dotted.service ∧ (∃ f ∈ dotted.files, f.Defines ".p.X") ∧
      ¬ dotted.Settles dotted.service ".p.X") ∧
    (shifting.ServedBy shifting.service ∧ (∃ f ∈ shifting.files, f.Defines "q.M") ∧
      ¬ shifting.Settles shifting.service "q.M") := by
  refine ⟨⟨dotted.served, ?_, ?_⟩, shifting.served, ?_, ?_⟩
  · exact ⟨decoded dottedFile, List.mem_cons_self, by decide +kernel⟩
  · rintro ⟨d, settled⟩
    obtain ⟨r, h, quiet⟩ := leading_dot_hides
    cases settled none [] 1 _ r h quiet (.inl nofun)
  · exact ⟨decoded shiftingFile, List.mem_cons_self, by decide +kernel⟩
  · rintro ⟨d, settled⟩
    obtain ⟨d₁, d₂, r₁, r₂, h₁, quiet₁, h₂, quiet₂, types₁, types₂⟩ := order_of_lookups_matters
    cases settled none [] 2 _ r₁ h₁ quiet₁ (.inl nofun)
    cases settled none [.find 2 "q.p.Z"] 2 _ r₂ h₂ quiet₂ (.inl nofun)
    have same := types₁.symm.trans types₂
    simp at same

end Catalog

end DynamicRpc.Reflection
