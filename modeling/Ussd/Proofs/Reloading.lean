import Mathlib.Data.List.Induction
import Mathlib.Data.List.Nodup
import Ussd.Proofs.MainMenu
import Ussd.Proofs.ShortCodes
import Ussd.Store.Folder

/-! # Reloading a folder

A catalogue that is reloaded takes in the services whose files are in the folder now, and keeps the
others as they were. A service without a file is therefore the one of the last file that it had. -/

namespace Ussd

/-! ## Files -/

namespace DefinitionFormat

/-- The endings of the files in a format. -/
def endings : DefinitionFormat → List String
  | .json => ["json"]
  | .yaml => ["yaml", "yml"]

theorem ending?_append {ending : List Char} (noDot : '.' ∉ ending) (stem : List Char) :
    ending? (stem ++ '.' :: ending) = if stem.isEmpty then none else some ending := by
  have passes : ∀ c ∈ ending.reverse, (c != '.') = true :=
    Text.bne_of_not_mem fun isMember => noDot (List.mem_reverse.mp isMember)
  have found : ((stem ++ '.' :: ending).reverse.takeWhile (· != '.')).reverse = ending := by
    have layout : (stem ++ '.' :: ending).reverse = ending.reverse ++ '.' :: stem.reverse := by simp
    rw [layout, Text.takeWhile_append_cons (by rfl), List.takeWhile_eq_self_iff.mpr passes,
      List.reverse_reverse]
  have front : (stem ++ '.' :: ending).length - ending.length - 1 = stem.length := by
    rw [List.length_append, List.length_cons]
    omega
  rw [ending?, found, front, List.take_left]

theorem ending?_of_notMem {name : List Char} (noDot : '.' ∉ name) : ending? name = none := by
  have passes : ∀ c ∈ name.reverse, (c != '.') = true :=
    Text.bne_of_not_mem fun isMember => noDot (List.mem_reverse.mp isMember)
  rw [ending?, List.takeWhile_eq_self_iff.mpr passes, List.reverse_reverse, Nat.sub_self]
  rfl

theorem ending?_eq_some_iff {name ending : List Char} :
    ending? name = some ending ↔
      ∃ stem, name = stem ++ '.' :: ending ∧ stem ≠ [] ∧ '.' ∉ ending := by
  constructor
  · intro found
    rcases Decidable.em ('.' ∈ name.reverse) with isMember | absent
    · rcases List.eq_append_cons_of_mem isMember with ⟨behind, front, split, noDot⟩
      have noDot : '.' ∉ behind.reverse := fun isMember => noDot (List.mem_reverse.mp isMember)
      have layout : name = front.reverse ++ '.' :: behind.reverse := by
        rw [← List.reverse_reverse name, split]
        simp
      rw [layout, ending?_append noDot] at found
      split at found
      · cases found
      · rename_i nonempty
        cases found
        exact ⟨front.reverse, layout, by simpa using nonempty, noDot⟩
    · rw [ending?_of_notMem fun isMember => absent (List.mem_reverse.mpr isMember)] at found
      cases found
  · intro named
    rcases named with ⟨stem, rfl, nonempty, noDot⟩
    rw [ending?_append noDot, if_neg (by simpa using nonempty)]

theorem ofFileName?_eq_some_iff {name : String} {format : DefinitionFormat} :
    ofFileName? name = some format ↔ ∃ ending, ending? name.toList = some ending ∧
      String.ofList (ending.map Char.toLower) ∈ format.endings := by
  rw [ofFileName?]
  cases ending? name.toList with
  | none => simp
  | some ending =>
      simp only [Option.map_some, Option.some.injEq, exists_eq_left']
      generalize String.ofList (ending.map Char.toLower) = word
      constructor
      · intro found
        split at found
        · rename_i isJson
          cases isJson
          cases found
          simp [endings]
        · rename_i isYaml
          cases isYaml
          cases found
          simp [endings]
        · rename_i isYml
          cases isYml
          cases found
          simp [endings]
        · cases found
      · intro isEnding
        cases format with
        | json =>
            rw [List.mem_singleton.mp isEnding]
            rfl
        | yaml =>
            rcases List.mem_pair.mp isEnding with rfl | rfl
            · rfl
            · rfl

end DefinitionFormat

namespace DefinitionFile

/-- The file is named as one of a format, in letters of either case, and its content denotes the
definition in this format. -/
def Holds (file : DefinitionFile) (definition : Definition) : Prop :=
  ∃ stem ending format content, file.name.toList = stem ++ '.' :: ending ∧ stem ≠ [] ∧
    '.' ∉ ending ∧ String.ofList (ending.map Char.toLower) ∈ DefinitionFormat.endings format ∧
    file.content = some content ∧ format.read? content = some definition

theorem definition?_eq_some_iff {file : DefinitionFile} {definition : Definition} :
    file.definition? = some definition ↔ file.Holds definition := by
  simp only [definition?, Holds, Option.bind_eq_some_iff, DefinitionFormat.ofFileName?_eq_some_iff,
    DefinitionFormat.ending?_eq_some_iff]
  constructor
  · intro found
    rcases found with
      ⟨format, ⟨ending, ⟨stem, named, nonempty, noDot⟩, isEnding⟩, content, read, denotes⟩
    exact ⟨stem, ending, format, content, named, nonempty, noDot, isEnding, read, denotes⟩
  · intro holds
    rcases holds with
      ⟨stem, ending, format, content, named, nonempty, noDot, isEnding, read, denotes⟩
    exact ⟨format, ⟨ending, ⟨stem, named, nonempty, noDot⟩, isEnding⟩, content, read, denotes⟩

theorem definition?_eq_none_iff {file : DefinitionFile} :
    file.definition? = none ↔ ∀ definition, ¬file.Holds definition := by
  rw [Option.eq_none_iff_forall_ne_some]
  apply forall_congr'
  intro definition
  rw [ne_eq, definition?_eq_some_iff]

end DefinitionFile

/-! ## Folders -/

namespace Folder

/-- Some file in the folder holds the definition. -/
def Holds (folder : Folder) (definition : Definition) : Prop :=
  ∃ file ∈ folder, file.Holds definition

/-- No two files hold definitions of one service. -/
def CodesApart (folder : Folder) : Prop :=
  folder.Pairwise fun left right => ∀ one, left.Holds one → ∀ other, right.Holds other →
    one.serviceCode ≠ other.serviceCode

/-- The definition of a service that is read last. -/
def lastWith? (folder : Folder) (code : String) : Option Definition :=
  folder.definitions.reverse.find? fun definition => definition.serviceCode == code

theorem mem_definitions {folder : Folder} {definition : Definition} :
    definition ∈ folder.definitions ↔ folder.Holds definition := by
  rw [definitions, Holds, List.mem_filterMap]
  apply exists_congr
  intro file
  rw [DefinitionFile.definition?_eq_some_iff]

theorem CodesApart.nodup {folder : Folder} (apart : folder.CodesApart) :
    (folder.definitions.map Definition.serviceCode).Nodup := by
  apply List.pairwise_map.mpr
  apply List.pairwise_filterMap.mpr
  apply List.Pairwise.imp _ apart
  intro left right different one isLeft other isRight
  exact different one (DefinitionFile.definition?_eq_some_iff.mp isLeft) other
    (DefinitionFile.definition?_eq_some_iff.mp isRight)

theorem definitions_append (left right : Folder) :
    definitions (left ++ right) = left.definitions ++ right.definitions :=
  List.filterMap_append

theorem lastWith?_append (left right : Folder) (code : String) :
    lastWith? (left ++ right) code = (right.lastWith? code).or (left.lastWith? code) := by
  rw [lastWith?, definitions_append, List.reverse_append, List.find?_append]
  rfl

theorem lastWith?_eq_none_iff {folder : Folder} {code : String} :
    folder.lastWith? code = none ↔
      ∀ definition, folder.Holds definition → definition.serviceCode ≠ code := by
  rw [lastWith?, List.find?_eq_none]
  simp only [List.mem_reverse, mem_definitions, beq_iff_eq, ne_eq]

theorem CodesApart.lastWith?_eq_some_iff {folder : Folder} (apart : folder.CodesApart)
    {code : String} {definition : Definition} :
    folder.lastWith? code = some definition ↔
      folder.Holds definition ∧ definition.serviceCode = code := by
  have holds_of_last {other : Definition} (isLast : folder.lastWith? code = some other) :
      folder.Holds other ∧ other.serviceCode = code :=
    ⟨mem_definitions.mp (List.mem_reverse.mp (List.mem_of_find?_eq_some isLast)),
      by simpa using List.find?_some isLast⟩
  constructor
  · exact holds_of_last
  · intro given
    rcases given with ⟨holds, hasCode⟩
    cases last : folder.lastWith? code with
    | none => exact absurd hasCode (lastWith?_eq_none_iff.mp last definition holds)
    | some other =>
        rcases holds_of_last last with ⟨otherHolds, otherHasCode⟩
        rw [List.inj_on_of_nodup_map apart.nodup (mem_definitions.mpr holds)
          (mem_definitions.mpr otherHolds) (hasCode.trans otherHasCode.symm)]

end Folder

/-! ## Catalogues of folders -/

namespace Catalogue

/-- The catalogue is found to have exactly the given services, all of them active, whichever way it
is asked. -/
structure Offers (catalogue : Catalogue) (services : ServiceRecord → Prop) : Prop where
  byCode : ∀ code record, Table.get? catalogue code = some record ↔
    services record ∧ record.code = code
  byShortCode : ∀ shortCode record, catalogue.byShortCode? shortCode = some record →
    services record ∧ record.shortCode = shortCode ∧ shortCode ≠ ""
  dialled : ∀ record, services record → record.shortCode ≠ "" →
    ∃ found, catalogue.byShortCode? record.shortCode = some found
  active : ∀ record, record ∈ catalogue.active ↔ services record
  once : catalogue.active.Nodup
  sorted : catalogue.active.Pairwise fun left right => ¬right.name < left.name

/-- The catalogue after a folder has been opened and reloaded, each time with other contents. -/
def follow (first : Folder) (later : List Folder) : Except Fault Catalogue := do
  let opened ← Catalogue.open (some first)
  later.foldlM (fun catalogue folder => (catalogue.reload (some folder)).map Prod.snd) opened

/-- The catalogue of files that are read one after the other. -/
def ofFiles (files : Folder) : Catalogue := files.definitions.foldl register []

theorem reload_ofFiles (known folder : Folder) :
    (ofFiles known).reload (some folder) =
      .ok (folder.definitions.length, ofFiles (known ++ folder)) := by
  rw [reload, ofFiles, ofFiles, Folder.definitions_append, List.foldl_append]

theorem follow_eq (first : Folder) (later : List Folder) :
    follow first later = .ok (ofFiles (first :: later).flatten) := by
  have fromKnown (known : Folder) : later.foldlM
      (fun catalogue folder => (catalogue.reload (some folder)).map Prod.snd) (ofFiles known) =
      .ok (ofFiles (known ++ later.flatten)) := by
    induction later generalizing known with
    | nil => rw [List.flatten_nil, List.append_nil]; rfl
    | cons folder later induction =>
        rw [List.foldlM_cons, reload_ofFiles, List.flatten_cons, ← List.append_assoc]
        exact induction (known ++ folder)
  exact fromKnown first

/-- Every service is the one of the last file with its code. -/
theorem get?_ofFiles (files : Folder) (code : String) :
    Table.get? (ofFiles files) code = (files.lastWith? code).map .ofDefinition := by
  rw [ofFiles, Folder.lastWith?]
  induction files.definitions using List.reverseRecOn with
  | nil => rfl
  | append_singleton definitions last induction =>
      rw [List.foldl_append, List.foldl_cons, List.foldl_nil, register, add, List.reverse_append,
        List.reverse_singleton, List.singleton_append]
      rcases Decidable.em (code = last.serviceCode) with rfl | different
      · rw [List.find?_cons_of_pos (by simp)]
        exact Table.get?_insert_same _ _ _
      · rw [List.find?_cons_of_neg (by simpa using Ne.symm different), ← induction]
        exact Table.get?_insert_other _ _ _ _ different

theorem indexed_ofFiles (files : Folder) : (ofFiles files).Indexed := by
  have added : ofFiles files =
      (files.definitions.map ServiceRecord.ofDefinition).foldl add [] := by
    rw [List.foldl_map]
    rfl
  rw [added]
  exact indexed_addAll _

section Indexed

variable {catalogue : Catalogue}

theorem Indexed.mem_values_iff (indexed : catalogue.Indexed) {record : ServiceRecord} :
    record ∈ catalogue.values ↔ Table.get? catalogue record.code = some record :=
  ⟨indexed.get?_of_mem, fun found => List.mem_map_of_mem (Table.mem_of_get? found)⟩

/-- A catalogue of active services offers what is found under the codes. -/
theorem Indexed.offers (indexed : catalogue.Indexed) {services : ServiceRecord → Prop}
    (found_iff : ∀ record, Table.get? catalogue record.code = some record ↔ services record)
    (allActive : ∀ record, services record → record.isActive = true) :
    catalogue.Offers services where
  byCode code record := by
    constructor
    · intro found
      have hasCode := indexed.keyed code record found
      rw [← hasCode] at found
      exact ⟨(found_iff record).mp found, hasCode⟩
    · rintro ⟨isService, rfl⟩
      exact (found_iff record).mpr isService
  byShortCode shortCode record found := by
    have first := byShortCode?_eq_some_iff.mp found
    rw [← found_iff, ← indexed.mem_values_iff]
    exact ⟨first.mem, first.hasCode, first.dialable⟩
  dialled record isService dialable := by
    have listed := indexed.mem_values_iff.mpr ((found_iff record).mpr isService)
    rcases exists_firstWith listed dialable with ⟨found, first⟩
    exact ⟨found, byShortCode?_eq_some_iff.mpr first⟩
  active record := by
    rw [mem_active, indexed.mem_values_iff, found_iff]
    exact ⟨And.left, fun isService => ⟨isService, allActive record isService⟩⟩
  once := catalogue.active_perm.nodup_iff.mpr (indexed.nodup_values.filter _)
  sorted := catalogue.active_sorted

end Indexed

/-- A service is offered in the definition of the last of the files that have its code. -/
theorem offers_ofFiles (files : Folder) :
    (ofFiles files).Offers fun record => ∃ definition,
      files.lastWith? definition.serviceCode = some definition ∧
      record = .ofDefinition definition := by
  apply (indexed_ofFiles files).offers
  · intro record
    rw [get?_ofFiles, Option.map_eq_some_iff]
    constructor
    · intro found
      rcases found with ⟨definition, isLast, rfl⟩
      exact ⟨definition, isLast, rfl⟩
    · intro isService
      rcases isService with ⟨definition, isLast, rfl⟩
      exact ⟨definition, isLast, rfl⟩
  · intro record isService
    rcases isService with ⟨definition, -, rfl⟩
    rfl

theorem Offers.congr {catalogue : Catalogue} {services others : ServiceRecord → Prop}
    (offers : catalogue.Offers services) (same : ∀ record, services record ↔ others record) :
    catalogue.Offers others := by
  have equal : services = others := funext fun record => propext (same record)
  rwa [← equal]

end Catalogue

/-- After a folder has been opened and reloaded any number of times, and is reloaded once more, the
catalogue offers the services whose files are in the folder now, and besides them those that none of
these files has, in the definition of the last file that had them. The number of the former is
returned. A file that holds no definition makes no difference. -/
theorem reload_keeps_services_without_file (first : Folder) (later : List Folder) {latest : Folder}
    (apart : latest.CodesApart) :
    ∃ before count after, Catalogue.follow first later = .ok before ∧
      before.reload (some latest) = .ok (count, after) ∧
      (after.Offers fun record => ∃ definition, record = .ofDefinition definition ∧
        (latest.Holds definition ∨
          (∀ other, latest.Holds other → other.serviceCode ≠ definition.serviceCode) ∧
          Folder.lastWith? (first :: later).flatten definition.serviceCode =
            some definition)) ∧
      (∃ services : List Definition, services.length = count ∧
        (services.map Definition.serviceCode).Nodup ∧
        ∀ definition, definition ∈ services ↔ latest.Holds definition) ∧
      ∀ front broken rest, latest = front ++ broken :: rest →
        (∀ definition, ¬broken.Holds definition) →
        before.reload (some (front ++ rest)) = .ok (count, after) := by
  let known : Folder := (first :: later).flatten
  refine ⟨.ofFiles known, latest.definitions.length, .ofFiles (known ++ latest),
    Catalogue.follow_eq first later, Catalogue.reload_ofFiles known latest, ?_,
    ⟨latest.definitions, rfl, apart.nodup, fun definition => Folder.mem_definitions⟩, ?_⟩
  · apply (Catalogue.offers_ofFiles (known ++ latest)).congr
    intro record
    apply exists_congr
    intro definition
    rw [and_comm, Folder.lastWith?_append, Option.or_eq_some_iff, apart.lastWith?_eq_some_iff,
      Folder.lastWith?_eq_none_iff]
    simp [known]
  · intro front broken rest split holdsNothing
    have isNone := DefinitionFile.definition?_eq_none_iff.mpr holdsNothing
    have same : latest.definitions = Folder.definitions (front ++ rest) := by
      rw [split, Folder.definitions_append, Folder.definitions_append, Folder.definitions,
        Folder.definitions, Folder.definitions, List.filterMap_cons_none isNone]
    rw [← Catalogue.reload_ofFiles known latest, Catalogue.reload, Catalogue.reload, same]

namespace Sample

def bankFile : DefinitionFile where
  name := "bank.json"
  content := some "\x7b\"serviceCode\":\"bank\",\"shortCode\":\"*1#\",\"states\":[]\x7d"

def shopFile : DefinitionFile where
  name := "shop.YML"
  content := some "serviceCode: shop\nstates: []\n"

def brokenFile : DefinitionFile where
  name := "broken.json"
  content := some ""

theorem exists_bankFile_holds :
    ∃ bank, bankFile.Holds bank ∧ bank.serviceCode = "bank" := by
  have evaluated : bankFile.definition?.map Definition.serviceCode = some "bank" := by
    decide +kernel
  rcases Option.map_eq_some_iff.mp evaluated with ⟨bank, found, hasCode⟩
  exact ⟨bank, DefinitionFile.definition?_eq_some_iff.mp found, hasCode⟩

theorem exists_shopFile_holds :
    ∃ shop, shopFile.Holds shop ∧ shop.serviceCode = "shop" := by
  have evaluated : shopFile.definition?.map Definition.serviceCode = some "shop" := by
    decide +kernel
  rcases Option.map_eq_some_iff.mp evaluated with ⟨shop, found, hasCode⟩
  exact ⟨shop, DefinitionFile.definition?_eq_some_iff.mp found, hasCode⟩

theorem not_brokenFile_holds (definition : Definition) : ¬brokenFile.Holds definition := by
  have evaluated : brokenFile.definition?.isNone = true := by decide +kernel
  have holdsNothing :=
    DefinitionFile.definition?_eq_none_iff.mp (Option.isNone_iff_eq_none.mp evaluated)
  exact holdsNothing definition

end Sample

/-- A folder with one file is opened, and reloaded when the file has been removed. -/
theorem removed_service_is_still_offered :
    ∃ before after, Catalogue.follow [Sample.bankFile] [] = .ok before ∧
      before.reload (some []) = .ok (0, after) ∧ Folder.CodesApart [] ∧
      (∀ definition, ¬Folder.Holds [] definition) ∧
      (Table.get? after "bank").isSome = true ∧
      ¬after.Offers fun record => ∃ definition, Folder.Holds [] definition ∧
        record = .ofDefinition definition := by
  have holdsNothing : ∀ definition, ¬Folder.Holds [] definition := by
    intro definition holds
    rcases holds with ⟨file, isMember, -⟩
    cases isMember
  have isOffered : (Table.get? (Catalogue.ofFiles [Sample.bankFile]) "bank").isSome = true := by
    decide +kernel
  refine ⟨_, _, Catalogue.follow_eq _ _, Catalogue.reload_ofFiles _ _, .nil, holdsNothing,
    isOffered, ?_⟩
  intro offers
  rcases Option.isSome_iff_exists.mp isOffered with ⟨record, found⟩
  rcases ((offers.byCode "bank" record).mp found).1 with ⟨definition, holds, -⟩
  exact holdsNothing definition holds

/-- The file of one service is removed, and a file of another service is added beside one that holds
no definition. -/
theorem removed_service_is_offered_beside_new_one :
    let latest : Folder := [Sample.brokenFile, Sample.shopFile]
    latest.CodesApart ∧ ∃ bank shop before after, Sample.bankFile.Holds bank ∧
      Sample.shopFile.Holds shop ∧ Catalogue.follow [Sample.bankFile] [] = .ok before ∧
      before.reload (some latest) = .ok (1, after) ∧
      Table.get? after "bank" = some (.ofDefinition bank) ∧
      Table.get? after "shop" = some (.ofDefinition shop) := by
  intro latest
  rcases Sample.exists_bankFile_holds with ⟨bank, bankHolds, isBank⟩
  rcases Sample.exists_shopFile_holds with ⟨shop, shopHolds, isShop⟩
  have apart : latest.CodesApart := by
    apply List.pairwise_pair.mpr
    intro one holds
    exact absurd holds (Sample.not_brokenFile_holds one)
  have noBroken := DefinitionFile.definition?_eq_none_iff.mpr Sample.not_brokenFile_holds
  have isShopFile := DefinitionFile.definition?_eq_some_iff.mpr shopHolds
  have listed : latest.definitions = [shop] := by
    rw [Folder.definitions, List.filterMap_cons_none noBroken, List.filterMap_cons_some isShopFile,
      List.filterMap_nil]
  have shopPresent : latest.Holds shop :=
    Folder.mem_definitions.mp (listed ▸ List.mem_singleton_self shop)
  have bankGone : ∀ other, latest.Holds other → other.serviceCode ≠ bank.serviceCode := by
    intro other holds
    rw [← Folder.mem_definitions, listed, List.mem_singleton] at holds
    rw [holds, isShop, isBank]
    decide
  have bankLast : Folder.lastWith? [[Sample.bankFile]].flatten bank.serviceCode = some bank := by
    have bankPresent : Folder.Holds [Sample.bankFile] bank :=
      ⟨_, List.mem_singleton_self _, bankHolds⟩
    have alone : Folder.CodesApart [Sample.bankFile] := List.pairwise_singleton _ _
    exact alone.lastWith?_eq_some_iff.mpr ⟨bankPresent, rfl⟩
  rcases reload_keeps_services_without_file [Sample.bankFile] [] apart with
    ⟨before, count, after, follows, reloads, offers, -, -⟩
  have isOne : latest.definitions.length = count :=
    congrArg Prod.fst (Except.ok.inj reloads)
  rw [← isOne, listed] at reloads
  exact ⟨apart, bank, shop, before, after, bankHolds, shopHolds, follows, reloads,
    (offers.byCode "bank" _).mpr ⟨⟨bank, rfl, .inr ⟨bankGone, bankLast⟩⟩, isBank⟩,
    (offers.byCode "shop" _).mpr ⟨⟨shop, rfl, .inl shopPresent⟩, isShop⟩⟩

end Ussd
