import Mathlib
import Phrasebook.Proofs.Committing
import Phrasebook.Translation.Service

/-!
# Replies that are no translations

The reply of a service counts as a translation if it has the text of a first choice and names no
error. A request without such a reply is reported, and the text that it was for stays as it is.

- `Json.Leads`, `follow?_eq_some_iff`: what the steps through a body lead to;
- `Service.Translates`, `readReply_eq_ok_iff`: the replies that are taken for translations. The
  status of a reply is not looked at if the body has anything where the words for an error stand;
- `TranslationBatch.filter_issues_ofJobs`, `TranslationBatch.get?_translations_of_failed`: what a
  batch has of a job whose request fails;
- `Catalogue.get?_filledTable_of_untranslated`, `Catalogue.keepsEntry_of_commit`: without a
  translation an entry keeps its text;
- `Service.failed_replies_kept_out`: all of this for any service.
-/

namespace Phrasebook

/-! ## Bodies -/

namespace Json

/-- The steps lead through a value to another one: names of members, or numbers of items. -/
inductive Leads : List String → Value → Value → Prop where
  | here (value : Value) : Leads [] value value
  | member {step : String} {rest : List String} {members : List (String × Value)}
    {value found : Value} (named : members.lookup step = some value)
    (later : Leads rest value found) : Leads (step :: rest) (.object members) found
  | item {step : String} {rest : List String} {items : List Value} {index : Nat}
    {value found : Value} (number : step.toNat? = some index) (placed : items[index]? = some value)
    (later : Leads rest value found) : Leads (step :: rest) (.array items) found

end Json

namespace Service

open Json (Leads)

theorem follow?_eq_some_iff {steps : List String} {value found : Json.Value} :
    follow? steps value = some found ↔ Leads steps value found := by
  constructor
  · intro h
    induction steps generalizing value with
    | nil =>
      obtain rfl := Option.some.inj h
      exact .here _
    | cons step rest ih =>
      cases value with
      | object members =>
        obtain ⟨next, named, later⟩ := Option.bind_eq_some_iff.mp h
        exact .member named (ih later)
      | array items =>
        obtain ⟨next, placed, later⟩ := Option.bind_eq_some_iff.mp h
        obtain ⟨index, number, placed⟩ := Option.bind_eq_some_iff.mp placed
        exact .item number placed (ih later)
      | null | bool | number | string => cases h
  · intro leads
    induction leads with
    | here value => rfl
    | member named later ih =>
      rw [follow?, named]
      exact ih
    | item number placed later ih =>
      rw [follow?, number, Option.bind_some, placed]
      exact ih

/-- Steps lead to one value only. -/
theorem leads_unique {steps : List String} {value found other : Json.Value}
    (leads : Leads steps value found) (leads' : Leads steps value other) : found = other :=
  Option.some.inj ((follow?_eq_some_iff.mpr leads).symm.trans (follow?_eq_some_iff.mpr leads'))

theorem text?_eq_some_iff {value : Json.Value} {text : String} :
    value.text? = some text ↔ value = .string text := by
  cases value <;> simp [Json.Value.text?]

/-- The string that the steps lead to. -/
theorem follow?_text?_eq_some_iff {steps : List String} {value : Json.Value} {text : String} :
    (follow? steps value).bind Json.Value.text? = some text ↔ Leads steps value (.string text) := by
  rw [Option.bind_eq_some_iff]
  constructor
  · rintro ⟨found, leads, same⟩
    exact text?_eq_some_iff.mp same ▸ follow?_eq_some_iff.mp leads
  · intro leads
    exact ⟨_, follow?_eq_some_iff.mpr leads, rfl⟩

/-! ## Replies -/

/-- A reply with this status and this body is taken for a translation. -/
structure Translates (status : Nat) (body : Json.Value) (text : String) : Prop where
  /-- A status other than success only counts if nothing at all stands in place of the words for an
  error. -/
  answered : isSuccess status = true ∨ ∃ value, Leads ["error", "message"] body value
  unreported : ∀ words, ¬ Leads ["error", "message"] body (.string words)
  content : ∃ content, Leads ["choices", "0", "message", "content"] body (.string content) ∧
    text = Text.trim content
  filled : text ≠ ""

theorem readBody_eq_ok_iff {body : Json.Value} {text : String} :
    readBody body = .ok text ↔
      (∀ words, ¬ Leads ["error", "message"] body (.string words)) ∧
        (∃ content, Leads ["choices", "0", "message", "content"] body (.string content) ∧
          text = Text.trim content) ∧ text ≠ "" := by
  unfold readBody
  cases reported : (errorMessage? body).bind Json.Value.text? with
  -- The reply reports an error, and that comes first.
  | some words =>
    have named := follow?_text?_eq_some_iff.mp reported
    exact iff_of_false nofun fun h => h.1 words named
  -- No error is reported, so what is said counts.
  | none =>
    have unreported : ∀ words, ¬ Leads ["error", "message"] body (.string words) := by
      intro words named
      have some : (errorMessage? body).bind Json.Value.text? = .some words :=
        follow?_text?_eq_some_iff.mpr named
      rw [reported] at some
      cases some
    cases said : content? body with
    | none =>
      refine iff_of_false nofun ?_
      rintro ⟨-, ⟨content, leads, -⟩, -⟩
      rw [content?, follow?_text?_eq_some_iff.mpr leads] at said
      cases said
    | some content =>
      have leads := follow?_text?_eq_some_iff.mp said
      show (if (Text.trim content).isEmpty then Except.error ServiceFault.emptyReply
        else .ok (Text.trim content)) = .ok text ↔ _
      by_cases empty : Text.trim content = ""
      · -- A blank text is no translation.
        rw [if_pos (by simp [empty])]
        refine iff_of_false nofun ?_
        rintro ⟨-, ⟨other, leads', rfl⟩, filled⟩
        cases leads_unique leads leads'
        exact filled empty
      · rw [if_neg (by simpa using empty)]
        constructor
        · intro same
          cases same
          exact ⟨unreported, ⟨content, leads, rfl⟩, empty⟩
        · rintro ⟨-, ⟨other, leads', rfl⟩, -⟩
          cases leads_unique leads leads'
          rfl

theorem readReply_eq_ok_iff {service : Service} {reply : ServiceReply} {text : String} :
    service.readReply reply = .ok text ↔
      ∃ body, Json.parse reply.body = .ok body ∧ Translates reply.status body text := by
  unfold readReply
  cases parsed : Json.parse reply.body with
  | error fault => exact iff_of_false nofun fun ⟨body, same, _⟩ => by cases same
  | ok body =>
    have named : (errorMessage? body).isNone = false ↔
        ∃ value, Leads ["error", "message"] body value := by
      rw [Option.isNone_eq_false_iff, Option.isSome_iff_exists]
      exact exists_congr fun value => follow?_eq_some_iff
    dsimp only
    split
    case isTrue refused =>
      -- Neither success nor anything in place of the words for an error.
      rw [Bool.and_eq_true, Bool.not_eq_true'] at refused
      refine iff_of_false nofun ?_
      rintro ⟨other, same, translates⟩
      cases same
      rcases translates.answered with success | placed
      · rw [success] at refused
        cases refused.1
      · rw [named.mpr placed] at refused
        cases refused.2
    case isFalse accepted =>
      rw [readBody_eq_ok_iff]
      constructor
      · -- The status was accepted: it is a success, or there is something in place of the words.
        rintro ⟨unreported, content, filled⟩
        refine ⟨body, rfl, ?_, unreported, content, filled⟩
        by_cases success : isSuccess reply.status = true
        · exact .inl success
        · refine .inr (named.mp ?_)
          simpa [success, Option.isSome_iff_ne_none] using accepted
      · rintro ⟨other, same, translates⟩
        cases same
        exact ⟨translates.unreported, translates.content, translates.filled⟩

/-- A request is answered with a translation if the reply to its message is taken for one. -/
theorem translator_eq_ok_iff {service : Service}
    {send : ServiceMessage → Except SendFault ServiceReply} {request : TranslationRequest}
    {text : String} :
    service.translator send request = .ok text ↔
      ∃ reply body, send (service.message request) = .ok reply ∧
        Json.parse reply.body = .ok body ∧ Translates reply.status body text := by
  unfold translator
  cases send (service.message request) with
  | error fault => exact iff_of_false nofun fun ⟨reply, body, same, _⟩ => by cases same
  | ok reply =>
    have read : (service.readReply reply).mapError ServiceFault.message = .ok text ↔
        service.readReply reply = .ok text := by
      cases service.readReply reply <;> simp [Except.mapError]
    show (service.readReply reply).mapError ServiceFault.message = .ok text ↔ _
    rw [read, readReply_eq_ok_iff]
    simp

end Service

/-! ## Batches -/

/-- Whether an issue says that a text could not be translated into a language. -/
def Issue.isFailureOf (identity : Identity) (language : String) : Issue → Bool
  | .translationFailed other tag _ => other = identity && tag = language
  | _ => false

/-- Whether two jobs ask for the same text in the same language. -/
def TranslationJob.asksLike (job other : TranslationJob) : Bool :=
  other.identity = job.identity && other.language = job.language

theorem TranslationJob.asksLike_iff {job other : TranslationJob} :
    job.asksLike other = true ↔ other.identity = job.identity ∧ other.language = job.language := by
  simp [asksLike]

/-- Where no text is asked for twice, each job is listed once. -/
theorem TranslationJob.countP_asksLike {jobs : List TranslationJob}
    (apart : jobs.Pairwise TranslationJob.Apart) {job : TranslationJob} (here : job ∈ jobs) :
    jobs.countP job.asksLike = 1 := by
  obtain ⟨front, back, rfl⟩ := List.append_of_mem here
  obtain ⟨-, behind, between⟩ := List.pairwise_append.mp apart
  have before : front.countP job.asksLike = 0 := by
    refine List.countP_eq_zero.mpr fun other among alike => ?_
    exact between other among job List.mem_cons_self (asksLike_iff.mp alike)
  have after : back.countP job.asksLike = 0 := by
    refine List.countP_eq_zero.mpr fun other among alike => ?_
    obtain ⟨identity, language⟩ := asksLike_iff.mp alike
    exact (List.pairwise_cons.mp behind).1 other among ⟨identity.symm, language.symm⟩
  rw [List.countP_append, List.countP_cons_of_pos (asksLike_iff.mpr ⟨rfl, rfl⟩), before, after]

namespace TranslationBatch

variable {translator : Translator} {program : Program} {extraction : Extraction} {radius : Nat}
  {jobs : List TranslationJob} {job : TranslationJob} {words : String}

/-- Jobs that ask for the same text fail alike. -/
theorem perform_of_asksLike {other : TranslationJob}
    (failed : translator (requestFor program extraction radius job) = .error words)
    (alike : job.asksLike other = true) :
    perform translator program extraction radius other =
      .error (.translationFailed job.identity job.language words) := by
  obtain ⟨identity, language⟩ := TranslationJob.asksLike_iff.mp alike
  have same : requestFor program extraction radius other =
      requestFor program extraction radius job := by
    unfold requestFor
    rw [identity, language]
  unfold perform
  rw [same, failed, identity, language]

/-- Other jobs are reported under their own names. -/
theorem isFailureOf_of_perform {other : TranslationJob} {issue : Issue}
    (reported : perform translator program extraction radius other = .error issue)
    (differs : job.asksLike other ≠ true) :
    issue.isFailureOf job.identity job.language = false := by
  unfold perform at reported
  split at reported
  · cases reported
  · cases reported
    exact Bool.eq_false_iff.mpr differs

/-- A job that fails is reported, once for each time that it is listed. -/
theorem filter_issues_ofJobs
    (failed : translator (requestFor program extraction radius job) = .error words) :
    (ofJobs translator program extraction radius jobs).issues.filter
        (Issue.isFailureOf job.identity job.language) =
      List.replicate (jobs.countP job.asksLike)
        (.translationFailed job.identity job.language words) := by
  induction jobs with
  | nil => rfl
  | cons other rest ih =>
    unfold ofJobs at ih ⊢
    dsimp only at ih ⊢
    rw [List.map_cons, List.filterMap_cons]
    by_cases alike : job.asksLike other = true
    · -- The same is asked again and fails in the same way.
      rw [perform_of_asksLike failed alike, List.countP_cons_of_pos alike, List.replicate_succ,
        ← ih]
      exact List.filter_cons_of_pos (by simp [Issue.isFailureOf])
    · rw [List.countP_cons_of_neg alike, ← ih]
      cases done : perform translator program extraction radius other with
      | ok completed => rfl
      | error issue =>
        have differs := isFailureOf_of_perform done alike
        exact List.filter_cons_of_neg (by simp [differs])

/-- A batch has no text for a job that fails. -/
theorem get?_translations_of_failed
    (failed : translator (requestFor program extraction radius job) = .error words) :
    (ofJobs translator program extraction radius jobs).translations.get?
      (job.identity, job.language) = none := by
  rw [OrderedMap.get?_eq_none_iff, translations, OrderedMap.mem_keys_ofList]
  intro present
  rw [List.map_map] at present
  obtain ⟨done, completed, same⟩ := List.mem_map.mp present
  obtain ⟨identity, language⟩ := Prod.mk.inj same
  have alike := TranslationJob.asksLike_iff.mpr ⟨identity, language⟩
  have answered : (perform translator program extraction radius done.job).toOption = some done :=
    toOption_perform_eq_some_iff.mpr ⟨rfl, (mem_completed_iff.mp completed).2⟩
  rw [perform_of_asksLike failed alike] at answered
  cases answered

end TranslationBatch

/-! ## Tables -/

namespace Catalogue

variable {catalogue : Catalogue} {tree after : FileTree} {extraction : Extraction}
  {options : FillOptions} {file : TableFile} {kind : ChangeKind} {identity : Identity}
  {language text : String} {keys : List String}

/-- What a file holds afterwards still has the text of a key: it holds what it held before, or it is
written with that text in its table. -/
def KeepsEntry (file : TableFile) (key text : String) (before after : Option Content) : Prop :=
  after = before ∨
    ∃ final : Table, final.get? key = some text ∧ after = some (.text (file.renderWith final))

/-- A text that there is no translation for is as it was once its table is filled. -/
theorem get?_filledTable_of_untranslated
    (none : options.translations.get? (identity, language) = none) {table : Table}
    (present : table.get? identity.key = some text) (filled : text ≠ "") :
    (filledTable options ⟨identity.space, language, keys⟩ table).get? identity.key = some text := by
  have spec := filled_filledTable options ⟨identity.space, language, keys⟩ table
  by_cases needed : identity.key ∈ keys
  · rw [spec.text identity.key needed text present filled]
    exact congrArg some (FillOptions.textOf_of_none none)
  · rw [spec.others identity.key needed, present]

/-- What a run writes for a table keeps such a text, whatever the tree is when its turn comes. -/
theorem keepsEntry_of_fillTable
    (none : options.translations.get? (identity, language) = none)
    (opened : catalogue.openTable tree (catalogue.filePath identity.space language) =
      .ok (file, kind))
    (present : file.table.get? identity.key = some text) (filled : text ≠ "") {change : FileChange}
    {place : Path} {written : String}
    (changed : (catalogue.fillTable options tree ⟨identity.space, language, keys⟩).change =
      some (change, place, written)) (before : Option Content) :
    place = catalogue.filePath identity.space language ∧
      KeepsEntry file identity.key text before (some (.text written)) := by
  obtain ⟨file', kind', opened', rfl, rfl⟩ := change_fillTable_eq_some changed
  cases opened.symm.trans opened'
  exact ⟨rfl, .inr ⟨_, get?_filledTable_of_untranslated none present filled, rfl⟩⟩

/-- A whole run keeps such a text. -/
theorem keepsEntry_of_commit {program : Program}
    (extracted : Extraction.ofProgram program = .ok extraction) (regular : catalogue.Regular)
    (wf : tree.WellFormed) (tags : ∀ language ∈ extraction.languages, '/' ∉ language.toList)
    {result : Except WriteFault Outcome}
    (h : (catalogue.commit extraction options).run tree = (result, after))
    (required : identity ∈ extraction.identities) (known : language ∈ extraction.languages)
    (none : options.translations.get? (identity, language) = none)
    (opened : catalogue.openTable tree (catalogue.filePath identity.space language) =
      .ok (file, kind))
    (present : file.table.get? identity.key = some text) (filled : text ≠ "") :
    KeepsEntry file identity.key text
      (tree.contentOf? (catalogue.filePath identity.space language))
      (after.contentOf? (catalogue.filePath identity.space language)) := by
  have distinct := (Extraction.recorded_of_ofProgram extracted).2.2
  have valid := valid_needs (Extraction.valid_of_ofProgram extracted) tags
  have here : (⟨identity.space, language, keysIn extraction.identities identity.space⟩ : Need) ∈
      needs extraction.identities extraction.languages :=
    mem_needs_iff.mpr ⟨⟨⟨identity, required, rfl⟩, known⟩, rfl⟩
  obtain ⟨-, left⟩ := filledFile_of_run regular wf valid (pairwise_needs distinct) h here
  rcases left file kind opened with written | ⟨same, -⟩
  · exact .inr ⟨_, get?_filledTable_of_untranslated none present filled, written⟩
  · exact .inl same

end Catalogue

/-! ## Failed requests -/

namespace Service

open Catalogue (KeepsEntry FillOptions)

/-- A request is answered with a translation if and only if its reply is taken for one. A job whose
request is not is reported, once for each time that it is listed, and the batch has no text for it.
So what is committed keeps the text that its entry has. -/
theorem failed_replies_kept_out (service : Service)
    (send : ServiceMessage → Except SendFault ServiceReply) :
    (∀ request text, service.translator send request = .ok text ↔
      ∃ reply body, send (service.message request) = .ok reply ∧
        Json.parse reply.body = .ok body ∧ Translates reply.status body text) ∧
    ∀ (program : Program) (extraction : Extraction) (radius : Nat) (jobs : List TranslationJob)
      (job : TranslationJob) (words : String),
      service.translator send (TranslationBatch.requestFor program extraction radius job) =
        .error words →
      let batch := TranslationBatch.ofJobs (service.translator send) program extraction radius jobs
      batch.issues.filter (Issue.isFailureOf job.identity job.language) =
        List.replicate (jobs.countP job.asksLike)
          (.translationFailed job.identity job.language words) ∧
      (jobs.Pairwise TranslationJob.Apart → job ∈ jobs → jobs.countP job.asksLike = 1) ∧
      batch.translations.get? (job.identity, job.language) = none ∧
      ∀ (catalogue : Catalogue) (tree : FileTree) (targets : List Identity)
        (defaultLanguage : Option String) (file : TableFile) (kind : ChangeKind) (text : String),
        let options : FillOptions := ⟨batch.translations, targets, defaultLanguage⟩
        let path := catalogue.filePath job.identity.space job.language
        catalogue.openTable tree path = .ok (file, kind) →
        file.table.get? job.identity.key = some text → text ≠ "" →
        (∀ keys change place written,
          (catalogue.fillTable options tree ⟨job.identity.space, job.language, keys⟩).change =
            some (change, place, written) →
          place = path ∧
            KeepsEntry file job.identity.key text (tree.contentOf? path) (some (.text written))) ∧
        (Extraction.ofProgram program = .ok extraction → catalogue.Regular → tree.WellFormed →
          (∀ language ∈ extraction.languages, '/' ∉ language.toList) →
          job.identity ∈ extraction.identities → job.language ∈ extraction.languages →
          ∀ result after, (catalogue.commit extraction options).run tree = (result, after) →
            KeepsEntry file job.identity.key text (tree.contentOf? path)
              (after.contentOf? path)) := by
  refine ⟨fun request text => translator_eq_ok_iff, ?_⟩
  intro program extraction radius jobs job words failed batch
  have none : batch.translations.get? (job.identity, job.language) = none :=
    TranslationBatch.get?_translations_of_failed failed
  refine ⟨?_, ?_, none, ?_⟩
  · exact TranslationBatch.filter_issues_ofJobs failed
  · intro apart here
    exact TranslationJob.countP_asksLike apart here
  · intro catalogue tree targets defaultLanguage file kind text options path opened present filled
    -- Without a translation, filling one table keeps its text, and so does the commit as a whole.
    constructor
    · intro keys change place written changed
      exact Catalogue.keepsEntry_of_fillTable none opened present filled changed _
    · intro extracted regular wf tags required known result after committed
      exact Catalogue.keepsEntry_of_commit extracted regular wf tags committed required known none
        opened present filled

/-- A service to be asked for words of the menu. -/
def dictionary : Service := ⟨"http://mt.test/chat/completions", "key", "words", 0, 100⟩

/-- An error page with a text in place of a translation, and without words for the error. -/
def errorPage : ServiceReply :=
  ⟨500, "\x7b\"error\": \x7b\"message\": null\x7d, " ++
    "\"choices\": [\x7b\"message\": \x7b\"content\": \" down for repair \"\x7d\x7d]\x7d"⟩

/-- The service has no time. -/
def busyReply : ServiceReply := ⟨503, "\x7b\"error\": \x7b\"message\": \"busy\"\x7d\x7d"⟩

theorem translates_errorPage :
    ∃ body, Json.parse errorPage.body = .ok body ∧ Translates 500 body "down for repair" := by
  refine ⟨.object [("error", .object [("message", .null)]), ("choices", .array [.object
    [("message", .object [("content", .string " down for repair ")])]])], by cbv, ?_⟩
  refine ⟨.inr ⟨.null, .member rfl (.member rfl (.here _))⟩, ?_, ⟨" down for repair ", ?_, ?_⟩, ?_⟩
  · intro words named
    cases leads_unique named (.member rfl (.member rfl (.here .null)))
  · have zero : "0".toNat? = some 0 := by cbv
    exact .member rfl (.item zero rfl (.member rfl (.member rfl (.here _))))
  · decide
  · decide

/-- An error page is put into the menu as the text of each entry, and a service that is busy leaves
the menu as it is. -/
theorem menu_kept_from_busy_service :
    (isSuccess errorPage.status = false ∧
      ∀ request, dictionary.translator (fun _ => .ok errorPage) request = .ok "down for repair") ∧
    let job : TranslationJob := ⟨⟨"menu", "Open"⟩, "en", 1⟩
    let batch := TranslationBatch.ofJobs (dictionary.translator fun _ => .ok busyReply)
      Catalogue.menuCalls Catalogue.menuExtraction 80 [job]
    let run := (Catalogue.menus.commit Catalogue.menuExtraction
      ⟨batch.translations, [⟨"menu", "Open"⟩], none⟩).run Catalogue.menuFiles
    batch.issues.filter (Issue.isFailureOf ⟨"menu", "Open"⟩ "en") =
      [.translationFailed ⟨"menu", "Open"⟩ "en" "translation service error: busy"] ∧
    let path := Catalogue.menus.filePath "menu" "en"
    ∃ file kind, Catalogue.menus.openTable Catalogue.menuFiles path = .ok (file, kind) ∧
      KeepsEntry file "Open" "Open it" (Catalogue.menuFiles.contentOf? path)
        (run.2.contentOf? path) := by
  constructor
  · refine ⟨by decide, fun request => ?_⟩
    obtain ⟨body, parsed, translates⟩ := translates_errorPage
    exact ((failed_replies_kept_out dictionary fun _ => .ok errorPage).1 request _).mpr
      ⟨errorPage, body, rfl, parsed, translates⟩
  · intro job batch run
    obtain ⟨issues, once, -, kept⟩ := (failed_replies_kept_out dictionary fun _ => .ok busyReply).2
      Catalogue.menuCalls Catalogue.menuExtraction 80 [job] job "translation service error: busy"
      (by decide +kernel)
    rw [once (List.pairwise_singleton _ _) List.mem_cons_self] at issues
    refine ⟨issues, ?_⟩
    intro path
    have opened : (Catalogue.menus.openTable Catalogue.menuFiles path).toOption.map
        (fun found => found.1.table.get? "Open") = some (some "Open it") := by
      decide +kernel
    cases found : Catalogue.menus.openTable Catalogue.menuFiles path with
    | error fault =>
      rw [found] at opened
      cases opened
    | ok pair =>
      rw [found] at opened
      obtain ⟨-, committed⟩ := kept Catalogue.menus Catalogue.menuFiles [⟨"menu", "Open"⟩] none
        pair.1 pair.2 "Open it" found (Option.some.inj opened) (by decide)
      have regular : Catalogue.menus.Regular := ⟨by decide, by decide⟩
      exact ⟨pair.1, pair.2, rfl, committed Catalogue.ofProgram_menuCalls regular
        (by decide +kernel) (by decide +kernel) (by decide +kernel) (by decide +kernel)
        run.1 run.2 rfl⟩

end Service

end Phrasebook
