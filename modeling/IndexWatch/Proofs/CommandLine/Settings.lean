import IndexWatch.CommandLine.Reader
import IndexWatch.Decimal.Shortest
import IndexWatch.Proofs.Text.Numeral

namespace IndexWatch

namespace CommandLine

namespace Setting

def text : (s : Setting) → s.Value → String
  | serverUrl, v => v
  | token, v => v
  | jobType, v => v
  | pollInterval, v => String.ofList (Decimal.digits v.toNat)
  | requestTimeout, v => String.ofList (Decimal.digits v.toNat)
  | perPage, v => String.ofList (Decimal.digits v.toNat)
  | segmentKey, v => v
  | configured, v => if v then "true" else "false"
  | logFormat, .compact => "compact"
  | logFormat, .json => "json"
  | logFile, v => v
  | timeout, v => String.ofList (Decimal.digits v.toNat)

section

variable {n bound : Nat}

theorem digits_ne_cons {c : Char} {cs : List Char} (h : c.isDigit = false) :
    Decimal.digits n ≠ c :: cs := by
  intro he
  have hd := Nat.isDigit_of_mem_toDigits (b := 10) (n := n) (by decide) (by decide)
    (he ▸ List.mem_cons_self : c ∈ Decimal.digits n)
  rw [h] at hd
  nomatch hd

theorem readBelow?_digits (h : n < bound) :
    Numeral.readBelow? bound (Decimal.digits n) = some n := by
  have hr : Numeral.read? 10 (Decimal.digits n) = some n :=
    Numeral.read?_toDigits (by decide) (by decide)
  unfold Numeral.readBelow?
  split
  case h_1 hd => exact absurd hd (digits_ne_cons (by decide))
  case h_2    =>
    simp only [hr, Option.filter_some]
    exact if_pos (decide_eq_true h)

end

theorem readUInt64_digits (v : UInt64) :
    readUInt64 (String.ofList (Decimal.digits v.toNat)) = .ok v := by
  rw [readUInt64, String.toList_ofList, readBelow?_digits v.toNat_lt]
  exact congrArg Except.ok (UInt64.ofNat_toNat)

theorem readUInt32_digits (v : UInt32) :
    readUInt32 (String.ofList (Decimal.digits v.toNat)) = .ok v := by
  rw [readUInt32, String.toList_ofList]
  split
  case h_1 hd => exact absurd hd (digits_ne_cons (by decide))
  case h_2    =>
    rw [readBelow?_digits v.toNat_lt]
    exact congrArg Except.ok (UInt32.ofNat_toNat)

-- Every value is read from its text, but for a log file without a name.
theorem read_text {s : Setting} {v : s.Value} (h : s ≠ .logFile ∨ s.text v ≠ "") :
    s.read (s.text v) = .ok v := by
  cases s
  case pollInterval   => exact readUInt64_digits v
  case requestTimeout => exact readUInt64_digits v
  case timeout        => exact readUInt64_digits v
  case perPage        => exact readUInt32_digits v
  case configured     => cases v <;> rfl
  case logFormat =>
    have hcompact : "compact".toLower = "compact" := by decide +kernel
    have hjson : "json".toLower = "json" := by decide +kernel
    cases v
    case compact => simp [read, text, Log.Format.read, hcompact]; rfl
    case json    => simp [read, text, Log.Format.read, hjson]; rfl
  case logFile =>
    have hv : v ≠ "" := h.resolve_left fun hs => hs rfl
    have he : ¬v.isEmpty := by simpa using hv
    exact if_neg he
  all_goals rfl

end Setting

abbrev Assignment := Setting × String

def Assignment.word (a : Assignment) : String := "--" ++ (a.1.name ++ ("=" ++ a.2))

def CommandName.word : CommandName → String
  | status => "status"
  | watch => "watch"
  | create => "create"
  | cancel => "cancel"
  | jobs => "jobs"

section

variable {command : Option CommandName} {g : Given} {a : Assignment} {rest : List String}

theorem toList_word (a : Assignment) :
    a.word.toList = '-' :: '-' :: (a.1.name.toList ++ '=' :: a.2.toList) := by
  simp [Assignment.word]

theorem ofWord?_commandWord (n : CommandName) : CommandName.ofWord? n.word = some n := by
  cases n <;> rfl

theorem ofWord?_word (a : Assignment) : CommandName.ofWord? a.word = none := by
  have h := toList_word a
  unfold CommandName.ofWord?
  split
  case h_6 => rfl
  all_goals
    rename_i hw
    rw [hw] at h
    nomatch h

theorem word_ne_help (a : Assignment) : a.word ≠ "help" := by
  intro h
  have h := toList_word a ▸ congrArg String.toList h
  nomatch h

theorem ofName?_name (s : Setting) : Setting.ofName? s.name.toList = some s := by
  cases s <;> rfl

theorem name_ne_help (s : Setting) : s.name.toList ≠ "help".toList := by
  cases s <;> decide

-- The first sign of equality ends the name, whatever stands behind it.
theorem read_word (a : Assignment) :
    Word.read a.word = .long a.1.name.toList (some a.2.toList) := by
  obtain ⟨s, v⟩ := a
  have hn : s.name.toList.all (· ≠ '=') := by cases s <;> rfl
  rw [List.all_eq_true] at hn
  have ht : (s.name.toList ++ '=' :: v.toList).takeWhile (· ≠ '=') = s.name.toList := by
    rw [List.takeWhile_append_of_pos hn]
    simp
  have hd : (s.name.toList ++ '=' :: v.toList).dropWhile (· ≠ '=') = '=' :: v.toList := by
    rw [List.dropWhile_append_of_pos hn]
    simp
  unfold Word.read
  rw [toList_word]
  split
  case h_1 h => simp at h
  case h_2 h =>
    cases h
    rw [ht, hd]
    rfl
  case h_3 hc he => exact (hc (List.cons.inj (List.cons.inj he).2).1.symm).elim
  case h_4 h _   => exact (h _ rfl).elim

theorem takeLong_eq {x : a.1.Value} (ha : a.1.isAllowed command) (hg : g.isGiven a.1 = false)
    (hv : a.1.read a.2 = .ok x) :
    takeLong command ⟨g, none, false⟩ a.1.name.toList (some a.2.toList)
      = .ok ⟨g.set a.1 x, none, false⟩ := by
  have hput : Scan.put ⟨g, none, false⟩ a.1 (String.ofList a.2.toList)
      = .ok ⟨g.set a.1 x, none, false⟩ := by
    rw [String.ofList_toList, Scan.put, hv, hg]
    rfl
  rw [takeLong, if_neg (name_ne_help _), ofName?_name, Option.filter_some, if_pos ha]
  exact hput

theorem scan_word {x : a.1.Value} (ha : a.1.isAllowed command) (hg : g.isGiven a.1 = false)
    (hv : a.1.read a.2 = .ok x) :
    scan command ⟨g, none, false⟩ (a.word :: rest)
      = scan command ⟨g.set a.1 x, none, false⟩ rest := by
  rw [scan, read_word, ofWord?_word, if_neg Bool.false_ne_true]
  simp only [takeLong_eq ha hg hv, if_neg (word_ne_help a)]
  exact ite_self _

-- The word of a command ends what stands in front of it.
theorem scan_commandWord {n : CommandName} :
    scan none ⟨g, none, false⟩ (n.word :: rest) = .ok (⟨g, none, false⟩, some (n, rest)) := by
  rw [scan, ofWord?_commandWord, if_neg Bool.false_ne_true]
  rfl

end

def Command.name : Command → CommandName
  | status _ => .status
  | watch => .watch
  | create => .create
  | cancel => .cancel
  | jobs => .jobs

-- The values that a command line has for the settings. There is a timeout only behind `status`.
def value? (c : CommandLine) : Given
  | .serverUrl => some c.config.serverUrl
  | .token => c.config.token
  | .jobType => some c.config.jobType
  | .pollInterval => some c.config.pollIntervalSecs
  | .requestTimeout => some c.config.requestTimeoutSecs
  | .perPage => some c.config.perPage
  | .segmentKey => c.config.segmentKey
  | .configured => some c.config.configured
  | .logFormat => some c.logFormat
  | .logFile => c.logFile
  | .timeout =>
    match c.command with
    | .status t => some t
    | _ => none

def Writes (c : CommandLine) (a : Assignment) : Prop :=
  ∃ v, c.value? a.1 = some v ∧ a.1.read a.2 = .ok v

def only (c : CommandLine) (settings : List Setting) : Given := fun s =>
  if s ∈ settings then c.value? s else none

section

variable {c : CommandLine} {command : Option CommandName} {written : List Setting} {s : Setting}

theorem only_of_mem (h : s ∈ written) : c.only written s = c.value? s := if_pos h

theorem only_of_not_mem (h : s ∉ written) : c.only written s = none := if_neg h

theorem set_only {v : s.Value} (h : c.value? s = some v) :
    (c.only written).set s v = c.only (written ++ [s]) := by
  funext t
  unfold Given.set
  split
  case isTrue hs =>
    subst hs
    rw [only_of_mem (List.mem_append_right _ List.mem_cons_self), h]
  case isFalse hs =>
    have hm : t ∈ written ++ [s] ↔ t ∈ written := by simp [Ne.symm hs]
    simp only [only, hm]

-- Words that are written once each give their settings the values that they write.
theorem scan_words {as : List Assignment} {rest : List String}
    (hw : ∀ a ∈ as, a.1.isAllowed command ∧ c.Writes a)
    (hn : (written ++ as.map Prod.fst).Nodup) :
    scan command ⟨c.only written, none, false⟩ (as.map Assignment.word ++ rest)
      = scan command ⟨c.only (written ++ as.map Prod.fst), none, false⟩ rest := by
  induction as generalizing written
  case nil => rw [List.map_nil, List.map_nil, List.append_nil, List.nil_append]
  case cons a as hi =>
    have ⟨⟨ha, v, hv, hr⟩, hw⟩ := List.forall_mem_cons.1 hw
    have hsplit : written ++ (a :: as).map Prod.fst = written ++ [a.1] ++ as.map Prod.fst := by simp
    have hnew : a.1 ∉ written := fun hm =>
      (List.nodup_append.1 hn).2.2 _ hm _ List.mem_cons_self rfl
    have hg : (c.only written).isGiven a.1 = false := by
      rw [Given.isGiven, only_of_not_mem hnew]
      rfl
    rw [hsplit] at hn ⊢
    rw [List.map_cons, List.cons_append, scan_word ha hg hr, set_only hv]
    exact hi hw hn

theorem scan_start {as : List Assignment} {rest : List String}
    (hw : ∀ a ∈ as, a.1.isAllowed command ∧ c.Writes a) (hn : (as.map Prod.fst).Nodup) :
    scan command .start (as.map Assignment.word ++ rest)
      = scan command ⟨c.only (as.map Prod.fst), none, false⟩ rest := by
  have hnone : c.only [] = .none := funext fun s => only_of_not_mem List.not_mem_nil
  have hs : scan command ⟨c.only [], none, false⟩ (as.map Assignment.word ++ rest)
      = scan command ⟨c.only ([] ++ as.map Prod.fst), none, false⟩ rest := scan_words hw hn
  rwa [hnone] at hs

end

def Setting.outside? (s : Setting) (env : Environment) : Option s.Value :=
  (s.environmentName?.bind env).bind fun v => (s.read v).toOption

-- The variable whose value can be malformed.
def configuredVariable : String := "JOBWATCH_CONFIGURED"

-- Whether the environment can be read where some settings are written.
def Readable (env : Environment) (written : List Setting) : Prop :=
  .configured ∈ written ∨ ∀ v, env configuredVariable = some v → v = "true" ∨ v = "false"

section

variable {c : CommandLine} {env : Environment} {written : List Setting} {given : Given}

-- What stands in the environment for the settings that are not given.
def outside (env : Environment) (given : Given) : Given := fun s =>
  if given.isGiven s then none else s.outside? env

theorem exists_read_configured_iff {v : String} :
    (∃ b, Setting.configured.read v = .ok b) ↔ v = "true" ∨ v = "false" := by
  simp only [Setting.read]
  split <;> simp_all

theorem read_configured_error {v : String} {e : UsageError}
    (h : Setting.configured.read v = .error e) : e = .invalidValue := by
  simp only [Setting.read] at h
  split at h
  case h_1 => nomatch h
  case h_2 => nomatch h
  case h_3 => exact (Except.error.inj h).symm

theorem bind_ok_toOption {o : Option String} :
    (o.bind fun v => (Except.ok v : Except UsageError String).toOption) = o := by
  cases o <;> rfl

-- Where the one variable that can be malformed is well written, or not looked at, each setting that
-- is not given has what stands in the environment for it.
theorem fromEnvironment_of_mapM {o : Option Bool}
    (h : (if given.isGiven .configured then none else env configuredVariable).mapM
      (fun v => Setting.configured.read v) = .ok o) (ho : outside env given .configured = o) :
    fromEnvironment env given = .ok (outside env given) := by
  have h : (if given.isGiven .configured then none
      else Setting.configured.environmentName?.bind env).mapM
        (fun v => Setting.configured.read v) = .ok o := h
  have htext (b : Bool) {x : Option String} : (if b then none else x)
      = if b then none else x.bind fun v => (Except.ok v : Except UsageError String).toOption := by
    rw [bind_ok_toOption]
  unfold fromEnvironment
  simp only [h]
  refine congrArg Except.ok (funext fun s => ?_)
  cases s
  case configured => exact ho.symm
  case serverUrl  => exact htext _
  case token      => exact htext _
  case jobType    => exact htext _
  case segmentKey => exact htext _
  all_goals exact (ite_self _).symm

theorem fromEnvironment_ok (h : given.isGiven .configured ∨
    ∀ v, env configuredVariable = some v → v = "true" ∨ v = "false") :
    fromEnvironment env given = .ok (outside env given) := by
  by_cases hg : given.isGiven .configured
  case pos =>
    apply fromEnvironment_of_mapM (o := none)
    · rw [if_pos hg]
      rfl
    · exact if_pos hg
  case neg =>
    have ho : outside env given .configured = Setting.configured.outside? env := if_neg hg
    have hs : Setting.configured.outside? env
        = (env configuredVariable).bind fun v => (Setting.configured.read v).toOption := rfl
    cases he : env configuredVariable
    case none =>
      apply fromEnvironment_of_mapM (o := none)
      · rw [if_neg hg, he]
        rfl
      · rw [ho, hs, he]
        rfl
    case some v =>
      have ⟨b, hb⟩ := exists_read_configured_iff.2 ((h.resolve_left hg) v he)
      apply fromEnvironment_of_mapM (o := some b)
      · rw [if_neg hg, he, Option.mapM_some, hb]
        rfl
      · rw [ho, hs, he, Option.bind_some, hb]
        rfl

theorem fromEnvironment_error {v : String} (hg : given.isGiven .configured = false)
    (he : env configuredVariable = some v) (hv : ¬(v = "true" ∨ v = "false")) :
    fromEnvironment env given = .error .invalidValue := by
  cases hr : Setting.configured.read v
  case ok b    => exact absurd (exists_read_configured_iff.1 ⟨b, hr⟩) hv
  case error e =>
    have h : (if given.isGiven .configured then none
        else Setting.configured.environmentName?.bind env).mapM
          (fun v => Setting.configured.read v) = .error e := by
      have hbind : Setting.configured.environmentName?.bind env = some v := he
      rw [hg, if_neg Bool.false_ne_true, hbind, Option.mapM_some, hr]
      rfl
    rw [read_configured_error hr] at h
    unfold fromEnvironment
    simp only [h]
    rfl

end

-- Whether assignments give settings the values that a command line has for them: in front of the
-- command those of the client and of the log, behind it those of the log and of the command, and on
-- each side every setting once at most.
structure Written (c : CommandLine) (front behind : List Assignment) : Prop where
  clientOrLog : ∀ a ∈ front, a.1 ≠ .timeout ∧ c.Writes a
  logOrCommand : ∀ a ∈ behind, (a.1 = .logFormat ∨ a.1 = .logFile ∨
    a.1 = .timeout ∧ c.command.name = .status) ∧ c.Writes a
  once : (front.map Prod.fst).Nodup ∧ (behind.map Prod.fst).Nodup

def words (c : CommandLine) (front behind : List Assignment) : List String :=
  front.map Assignment.word ++ c.command.name.word :: behind.map Assignment.word

def CommandName.bare : CommandName → CommandLine
  | status => ⟨.status 30, {}, .compact, none⟩
  | watch => ⟨.watch, {}, .compact, none⟩
  | create => ⟨.create, {}, .compact, none⟩
  | cancel => ⟨.cancel, {}, .compact, none⟩
  | jobs => ⟨.jobs, {}, .compact, none⟩

section

variable {c : CommandLine} {front behind : List Assignment} {env : Environment}

def built (n : CommandName) (own all : Given) : CommandLine where
  command := commandOf n own
  config := configOf all
  logFormat := (all .logFormat).getD default
  logFile := all .logFile

theorem scan_front (h : c.Written front behind) :
    scan none .start (c.words front behind)
      = .ok (⟨c.only (front.map Prod.fst), none, false⟩,
        some (c.command.name, behind.map Assignment.word)) := by
  have hw : ∀ a ∈ front, a.1.isAllowed none ∧ c.Writes a := by
    intro a ha
    have ⟨ht, hw⟩ := h.clientOrLog a ha
    refine ⟨?_, hw⟩
    revert ht
    cases a.1 <;> simp [Setting.isAllowed]
  exact (scan_start hw h.once.1).trans scan_commandWord

theorem scan_behind (h : c.Written front behind) :
    scan (some c.command.name) .start (behind.map Assignment.word)
      = .ok (⟨c.only (behind.map Prod.fst), none, false⟩, none) := by
  have hw : ∀ a ∈ behind, a.1.isAllowed (some c.command.name) ∧ c.Writes a := by
    intro a ha
    have ⟨ht, hw⟩ := h.logOrCommand a ha
    refine ⟨?_, hw⟩
    rcases ht with ht | ht | ⟨ht, hs⟩
    · rw [ht]; rfl
    · rw [ht]; rfl
    · rw [ht, hs]; rfl
  have hend (s : Scan) : scan (some c.command.name) s [] = .ok (s, none) := by rw [scan]; rfl
  rw [← List.append_nil (behind.map Assignment.word), scan_start hw h.once.2, hend]

theorem read_words (h : c.Written front behind) :
    read (c.words front behind) env
      = (fromEnvironment env (c.only (front.map Prod.fst))).map fun fromEnv =>
        built c.command.name (c.only (behind.map Prod.fst))
          ((c.only (behind.map Prod.fst)).orElse
            ((c.only (front.map Prod.fst)).orElse fromEnv)) := by
  unfold read
  rw [scan_front h]
  simp only [bind, Except.bind, Option.mapM_some, scan_behind h, Scan.resolve, Functor.map,
    Except.map, pure, Except.pure]
  cases fromEnvironment env (c.only (front.map Prod.fst)) <;> rfl

-- What is built has for each setting what is given for it, or else what a bare command has.
theorem value?_built {n : CommandName} {own all : Given} (hall : all .timeout = own .timeout)
    (hn : n ≠ .status → own .timeout = none) (s : Setting) :
    (built n own all).value? s = (all s).or (n.bare.value? s) := by
  have hsome {α : Type} (o : Option α) (d : α) : some (o.getD d) = o.or (some d) := by
    cases o <;> rfl
  have hconfig : n.bare.config = {} := by cases n <;> rfl
  have hformat : n.bare.logFormat = default := by cases n <;> rfl
  have hfile : n.bare.logFile = none := by cases n <;> rfl
  cases s
  case timeout =>
    rw [hall]
    cases n
    case status => exact hsome (own .timeout) defaultTimeout
    all_goals rw [hn nofun]; rfl
  case token      => simp only [value?, hconfig, Option.or_none]; rfl
  case segmentKey => simp only [value?, hconfig, Option.or_none]; rfl
  case logFile    => simp only [value?, hfile, Option.or_none]; rfl
  case logFormat  => simp only [value?, hformat]; exact hsome _ _
  all_goals simp only [value?, hconfig]; exact hsome _ _

theorem Written.exists_value (h : c.Written front behind) {s : Setting}
    (hs : s ∈ (front ++ behind).map Prod.fst) : ∃ v, c.value? s = some v := by
  have hw : ∀ a ∈ front ++ behind, c.Writes a := List.forall_mem_append.2
    ⟨fun a ha => (h.clientOrLog a ha).2, fun a ha => (h.logOrCommand a ha).2⟩
  have ⟨a, ha, he⟩ := List.mem_map.1 hs
  have ⟨v, hv, _⟩ := hw a ha
  exact he ▸ ⟨v, hv⟩

-- In front of the command a setting is given exactly if it is written there.
theorem Written.isGiven_iff (h : c.Written front behind) {s : Setting} :
    (c.only (front.map Prod.fst)).isGiven s ↔ s ∈ front.map Prod.fst := by
  by_cases hs : s ∈ front.map Prod.fst
  case neg => simp [Given.isGiven, only_of_not_mem hs, hs]
  case pos =>
    have ⟨v, hv⟩ := h.exists_value (List.map_append ▸ List.mem_append_left _ hs)
    simp [Given.isGiven, only_of_mem hs, hs, hv]

theorem given_eq (h : c.Written front behind) (s : Setting) :
    ((c.only (behind.map Prod.fst)).orElse ((c.only (front.map Prod.fst)).orElse
        (outside env (c.only (front.map Prod.fst))))) s
      = if s ∈ (front ++ behind).map Prod.fst then c.value? s else s.outside? env := by
  have hm : s ∈ (front ++ behind).map Prod.fst
      ↔ s ∈ front.map Prod.fst ∨ s ∈ behind.map Prod.fst := by
    rw [List.map_append, List.mem_append]
  simp only [Given.orElse, outside, h.isGiven_iff]
  by_cases hb : s ∈ behind.map Prod.fst
  case pos =>
    have ⟨v, hv⟩ := h.exists_value (hm.2 (.inr hb))
    rw [if_pos (hm.2 (.inr hb)), only_of_mem hb, hv, Option.some_or]
  case neg =>
    rw [only_of_not_mem hb, Option.none_or]
    by_cases hf : s ∈ front.map Prod.fst
    case pos =>
      have ⟨v, hv⟩ := h.exists_value (hm.2 (.inl hf))
      rw [if_pos (hm.2 (.inl hf)), only_of_mem hf, hv, Option.some_or]
    case neg =>
      have hn : s ∉ (front ++ behind).map Prod.fst := fun hs => (hm.1 hs).elim hf hb
      rw [if_neg hn, only_of_not_mem hf, Option.none_or, if_neg hf]

-- The truth value can only be written in front of the command.
theorem Written.configured_mem_iff (h : c.Written front behind) :
    .configured ∈ (front ++ behind).map Prod.fst
      ↔ (c.only (front.map Prod.fst)).isGiven .configured := by
  rw [h.isGiven_iff, List.map_append, List.mem_append, or_iff_left]
  intro hb
  have ⟨a, ha, he⟩ := List.mem_map.1 hb
  rcases (h.logOrCommand a ha).1 with hs | hs | ⟨hs, _⟩ <;> nomatch he.symm.trans hs

theorem Written.timeout_mem (h : c.Written front behind)
    (ht : .timeout ∈ (front ++ behind).map Prod.fst) :
    .timeout ∈ behind.map Prod.fst ∧ c.command.name = .status := by
  have ⟨a, ha, he⟩ := List.mem_map.1 ht
  rcases List.mem_append.1 ha with ha | ha
  · exact absurd he (h.clientOrLog a ha).1
  · refine ⟨he ▸ List.mem_map_of_mem ha, ?_⟩
    rcases (h.logOrCommand a ha).1 with hs | hs | ⟨_, hs⟩
    · nomatch he.symm.trans hs
    · nomatch he.symm.trans hs
    · exact hs

theorem read_written (h : c.Written front behind)
    (he : Readable env ((front ++ behind).map Prod.fst)) :
    ∃ d, read (c.words front behind) env = .ok d ∧ d.command.name = c.command.name ∧
      ∀ s, d.value? s = if s ∈ (front ++ behind).map Prod.fst then c.value? s
        else (s.outside? env).or (c.command.name.bare.value? s) := by
  have hok : fromEnvironment env (c.only (front.map Prod.fst)) = .ok _ :=
    fromEnvironment_ok (he.imp_left h.configured_mem_iff.1)
  have hbehind : ∀ s ∈ behind.map Prod.fst, s ∈ (front ++ behind).map Prod.fst :=
    fun s hs => List.map_append ▸ List.mem_append_right _ hs
  rw [read_words h, hok]
  refine ⟨_, rfl, ?_, fun s => ?_⟩
  · cases c.command.name <;> rfl
  · rw [value?_built, given_eq h]
    · split
      case isTrue hs =>
        have ⟨v, hv⟩ := h.exists_value hs
        rw [hv, Option.some_or]
      case isFalse => rfl
    · rw [given_eq h]
      by_cases ht : .timeout ∈ (front ++ behind).map Prod.fst
      case pos => rw [if_pos ht, only_of_mem (h.timeout_mem ht).1]
      case neg => rw [if_neg ht, only_of_not_mem fun hb => ht (hbehind _ hb)]; rfl
    · exact fun hn => only_of_not_mem fun hb => hn (h.timeout_mem (hbehind _ hb)).2

theorem read_written_error (h : c.Written front behind)
    (he : ¬Readable env ((front ++ behind).map Prod.fst)) :
    read (c.words front behind) env = .error .invalidValue := by
  simp only [Readable, not_or, Classical.not_forall] at he
  have ⟨hn, v, hv, hbad⟩ := he
  have hg := Bool.eq_false_iff.2 fun hg => hn (h.configured_mem_iff.2 hg)
  rw [read_words h, fromEnvironment_error hg hv (by simpa using hbad)]
  rfl

theorem writes_text (hfile : c.logFile ≠ some "") {s : Setting} {v : s.Value}
    (hv : c.value? s = some v) : c.Writes (s, s.text v) := by
  refine ⟨v, hv, Setting.read_text ?_⟩
  by_cases hs : s = .logFile
  case neg => exact .inl hs
  case pos =>
    subst hs
    exact .inr fun he => hfile (hv.trans (congrArg some he))

end

-- Where the settings of a command line come from. Those that are written, in front of the command
-- or behind it and in any order, have the values that are written. Each other one has the value
-- that the environment gives it, or else its default. The line is refused where the one variable
-- that can be malformed is malformed, and its setting is not written.
theorem read_of_settings (c : CommandLine) (hfile : c.logFile ≠ some "") :
    (∀ s v, c.value? s = some v → c.Writes (s, s.text v)) ∧
      ∀ (front behind : List Assignment) (env : Environment), c.Written front behind →
        let written := (front ++ behind).map Prod.fst
        (Readable env written →
          ∃ d, read (c.words front behind) env = .ok d ∧ d.command.name = c.command.name ∧
            ∀ s, d.value? s = if s ∈ written then c.value? s
              else (s.outside? env).or (c.command.name.bare.value? s)) ∧
        (¬Readable env written → read (c.words front behind) env = .error .invalidValue) :=
  ⟨fun _ _ => writes_text hfile,
    fun _ _ _ h => ⟨read_written h, read_written_error h⟩⟩

-- A token that looks like a setting of its own, with malformed and empty variables around it.
theorem read_of_settings_mixed :
    let c : CommandLine := ⟨.status 5, { token := some "-a=b c" }, .json, some "log"⟩
    let env : Environment := fun
      | "JOBWATCH_TOKEN" => some "other"
      | "JOBWATCH_JOB_TYPE" => some ""
      | "JOBWATCH_CONFIGURED" => some "maybe"
      | _ => none
    c.logFile ≠ some "" ∧
      ∃ d, read ["--token=-a=b c", "--log-format=json", "--configured=true", "status",
          "--timeout-secs=5", "--log-file=log"] env = .ok d ∧
        d.value? .token = some "-a=b c" ∧ d.value? .jobType = some "" ∧
        d.value? .perPage = some 100 ∧ d.value? .logFormat = some .json ∧
        d.value? .timeout = some 5 := by
  intro c env
  have hfile : c.logFile ≠ some "" := by decide
  have ⟨hwrites, hread⟩ := read_of_settings c hfile
  have hwritten : c.Written [(.token, "-a=b c"), (.logFormat, "json"), (.configured, "true")]
      [(.timeout, "5"), (.logFile, "log")] := {
    clientOrLog := List.forall_mem_cons.2 ⟨⟨nofun, hwrites .token _ rfl⟩,
      List.forall_mem_cons.2 ⟨⟨nofun, hwrites .logFormat _ rfl⟩,
        List.forall_mem_singleton.2 ⟨nofun, hwrites .configured _ rfl⟩⟩⟩
    logOrCommand := List.forall_mem_cons.2 ⟨⟨.inr (.inr ⟨rfl, rfl⟩), hwrites .timeout _ rfl⟩,
      List.forall_mem_singleton.2 ⟨.inr (.inl rfl), hwrites .logFile _ rfl⟩⟩
    once := by decide }
  have ⟨d, hd, _, hvalues⟩ := (hread _ _ env hwritten).1 (.inl (by decide))
  exact ⟨hfile, d, hd, hvalues .token, hvalues .jobType, hvalues .perPage, hvalues .logFormat,
    hvalues .timeout⟩

-- A malformed variable is not passed over for the default.
theorem read_of_malformed_variable :
    let env : Environment := fun name => if name = configuredVariable then some "maybe" else none
    let c : CommandLine := CommandName.bare .jobs
    c.Written [] [] ∧ (∀ s : Setting, s.outside? env = none) ∧
      read (c.words [] []) env = .error .invalidValue ∧
      read (c.words [] []) (fun _ => none) = .ok c := by
  intro env c
  refine ⟨⟨nofun, nofun, .nil, .nil⟩, ?_, rfl, rfl⟩
  intro s
  cases s <;> rfl

end CommandLine

end IndexWatch
