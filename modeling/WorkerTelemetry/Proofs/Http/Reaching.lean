import Mathlib.Data.List.TakeWhile
import Mathlib.Data.String.Basic
import WorkerTelemetry.Proofs.Http.Literal

/-!
Which paths a request can ask for, and so which servers can be scraped at all. A validated path is
mounted as it stands, but a target ends its path at a question mark or a number sign, is refused
for some other characters, and is refused if it is too long. Main statement: `scraped_iff_askable`.
-/

namespace WorkerTelemetry.Http

/-- A path that a target can have: no blank, no control character and no mark that a target does
not carry in its path, and not too long. -/
def Askable (path : String) : Prop :=
  (∀ c ∈ path.toList, 0x20 < c.toNat ∧ c ∉ ['#', '<', '>', '?', '`', '\x7f']) ∧
    path.utf8ByteSize ≤ targetLimit

/-! ### Paths of targets -/

variable {cs out rest : List Char} {path target : String}

theorem isPathChar_iff (c : Char) :
    isPathChar c = true ↔ 0x20 < c.toNat ∧ c ∉ ['#', '<', '>', '?', '`', '\x7f'] := by
  simp only [isPathChar, within, List.mem_cons, List.not_mem_nil, or_false, not_or,
    Bool.or_eq_true, Bool.and_eq_true, decide_eq_true_eq, beq_iff_eq, ← Char.toNat_inj]
  simp only [Char.reduceToNat]
  omega

theorem askable_iff : Askable path ↔
    path.toList.all isPathChar = true ∧ path.utf8ByteSize ≤ targetLimit := by
  simp only [Askable, List.all_eq_true, isPathChar_iff]

instance (path : String) : Decidable (Askable path) := decidable_of_iff' _ askable_iff

/-- What is read as a path is made of characters of a path, and was there unless it is the root. -/
theorem readPath_spec (read : readPath cs = some out) :
    (∀ c ∈ out, isPathChar c = true) ∧ (out = ['/'] ∨ out <+: cs) := by
  simp only [readPath] at read
  split_ifs at read with sound root
  · cases read
    exact ⟨by simp [isPathChar, within], .inl rfl⟩
  · cases read
    have chars := List.all_eq_true.1 (Bool.and_eq_true_iff.1 sound).1
    exact ⟨chars, .inr (List.takeWhile_prefix _)⟩

theorem readPath_self (some_path : cs ≠ []) (chars : ∀ c ∈ cs, isPathChar c = true) :
    readPath cs = some cs := by
  have whole : cs.takeWhile (fun c => c != '?' && c != '#') = cs := by
    rw [List.takeWhile_eq_self_iff]
    intro c hc
    have plain := ((isPathChar_iff c).1 (chars c hc)).2
    simp only [List.mem_cons, not_or] at plain
    simp [plain]
  simp [readPath, whole, List.all_eq_true.2 chars, some_path]

theorem afterScheme_suffix (after : afterScheme cs = some (some rest)) : rest <:+ cs := by
  simp only [afterScheme] at after
  split at after
  · next front =>
    split at after
    · cases after
    · split at after
      · cases after
      · cases after
        have suffix := List.drop_suffix (cs.takeWhile isSchemeChar).length cs
        rw [front] at suffix
        exact (List.suffix_append [':', '/', '/'] _).trans suffix
  · cases after

/-- The path of a target is one of two marks, or read from a part of the target. -/
theorem targetPath_cases (asked : targetPath target = some path) :
    target.utf8ByteSize ≤ targetLimit ∧ (path = "*" ∨ path = "" ∨
      ∃ cs out, cs <:+ target.toList ∧ readPath cs = some out ∧ path = String.ofList out) := by
  simp only [targetPath] at asked
  split at asked
  · cases asked
  · next fits =>
    refine ⟨by simp at fits; omega, ?_⟩
    split at asked
    · exact .inl (Option.some.inj asked).symm
    · split at asked
      · obtain ⟨out, read, rfl⟩ := Option.map_eq_some_iff.1 asked
        exact .inr (.inr ⟨_, out, List.suffix_rfl, read, rfl⟩)
      · obtain ⟨after, scheme, asked⟩ := Option.bind_eq_some_iff.1 asked
        cases after with
        | none =>
          obtain ⟨n, -, asked⟩ := Option.bind_eq_some_iff.1 asked
          split at asked
          · exact .inr (.inl (Option.some.inj asked).symm)
          · cases asked
        | some rest =>
          obtain ⟨n, -, asked⟩ := Option.bind_eq_some_iff.1 asked
          split at asked
          · cases asked
          · obtain ⟨out, read, rfl⟩ := Option.map_eq_some_iff.1 asked
            exact .inr (.inr ⟨_, out, (List.drop_suffix _ _).trans (afterScheme_suffix scheme),
              read, rfl⟩)

theorem askable_of_targetPath (asked : targetPath target = some path)
    (rooted : path.toList.head? = some '/') : Askable path := by
  obtain ⟨fits, rfl | rfl | ⟨cs, out, suffix, read, rfl⟩⟩ := targetPath_cases asked
  · simp at rooted
  · simp at rooted
  · obtain ⟨chars, part⟩ := readPath_spec read
    refine ⟨fun c hc => (isPathChar_iff c).1 (chars c (by simpa using hc)), ?_⟩
    rcases part with rfl | front
    · decide
    · calc (String.ofList out).utf8ByteSize
          = String.utf8Len out := String.utf8ByteSize_ofList out
        _ ≤ String.utf8Len target.toList :=
            String.utf8Len_le_of_sublist (front.sublist.trans suffix.sublist)
        _ = target.utf8ByteSize := String.utf8Len_toList target
        _ ≤ targetLimit := fits

/-- A path that can be asked for is asked for by itself. -/
theorem targetPath_self (askable : Askable path) (rooted : path.toList.head? = some '/') :
    targetPath path = some path := by
  obtain ⟨chars, fits⟩ := askable
  have some_path : path.toList ≠ [] := by
    intro none_left
    rw [none_left] at rooted
    cases rooted
  have not_star : path.toList ≠ ['*'] := by
    intro star
    rw [star] at rooted
    cases rooted
  have read := readPath_self some_path fun c hc => (isPathChar_iff c).2 (chars c hc)
  simp [targetPath, some_path, not_star, rooted, read, Nat.not_lt.2 fits]

/-- A request asks for a path that can be asked for, or for none that begins at the root. -/
theorem askable_of_make {method : String} {r : Request} (made : Request.make method target = some r)
    (rooted : r.path.toList.head? = some '/') : Askable r.path := by
  simp only [Request.make] at made
  split at made
  · obtain ⟨asked, found, rfl⟩ := Option.map_eq_some_iff.1 made
    exact askable_of_targetPath found rooted
  · cases made

/-! ### Servers that can be scraped -/

variable {c : Config}

/-- A validated path is mounted. If it can be asked for, it is asked for by itself, and the answer
to that is the exposition when there is one. If it cannot, every request is told that there is
nothing where it asks. -/
theorem scraped_iff_askable (valid : c.Valid) (registry : Metric.RegistryId) :
    let path := c.observability.metricsPath
    ∃ server, Server.mount registry path = some server ∧
      (Askable path → Request.make "GET" path = some ⟨"GET", path⟩ ∧
        ∀ t, server.respond t ⟨"GET", path⟩ = server.scrape t ∧
          ∀ text, t.store.encode registry = .ok text → server.respond t ⟨"GET", path⟩ =
            (t, { status := 200, contentType := some Metric.contentType, body := text })) ∧
      (¬ Askable path → ∀ method target r, Request.make method target = some r →
        ∀ t, server.respond t r = (t, { status := 404 })) := by
  intro path
  have fine : Config.pathProblem path = none := (Config.valid_iff.1 valid).2
  have rooted := (pathProblem_eq_none.1 fine).1
  have one := matchesPath_chars path
  refine ⟨⟨⟨path.toList.map .char⟩, registry⟩, ?_, fun askable => ⟨?_, fun t => ?_⟩, ?_⟩
  · rw [Server.mount, parse_of_pathProblem fine, Option.map_some]
  · rw [Request.make, targetPath_self askable rooted]
    rfl
  · have scraped : Server.respond ⟨⟨path.toList.map .char⟩, registry⟩ t ⟨"GET", path⟩ =
        Server.scrape ⟨⟨path.toList.map .char⟩, registry⟩ t := by
      simp [Server.respond, (one path).2 rfl]
    refine ⟨scraped, fun text encoded => ?_⟩
    rw [scraped, Server.scrape, encoded]
  · intro unaskable method target r made t
    have missed : Route.matchesPath ⟨path.toList.map .char⟩ r.path = false := by
      rw [← Bool.not_eq_true, one]
      intro same
      rw [← same] at rooted unaskable
      exact unaskable (askable_of_make made rooted)
    exact if_pos missed

/-- A validated path that nobody can ask for: what is behind the question mark of a target is no
longer its path. -/
def queryPath : Config := { observability := { metricsPath := "/metrics?x" } }

/-- A validated path of odd form that can be asked for. -/
def oddPath : Config := { observability := { metricsPath := "//m:*/é/" } }

theorem scraped_iff_askable_oddPath :
    oddPath.Valid ∧ queryPath.Valid ∧
      (∃ server, Server.mount ⟨0⟩ "//m:*/é/" = some server ∧
        Request.make "GET" "//m:*/é/" = some ⟨"GET", "//m:*/é/"⟩ ∧
        ∀ t, server.respond t ⟨"GET", "//m:*/é/"⟩ = server.scrape t) ∧
      ∃ server, Server.mount ⟨0⟩ "/metrics?x" = some server ∧
        ∀ t, server.respond t ⟨"GET", "/metrics"⟩ = (t, { status := 404 }) := by
  have odd : oddPath.Valid := by decide +kernel
  have query : queryPath.Valid := by decide +kernel
  obtain ⟨server, mounted, answered, -⟩ := scraped_iff_askable odd ⟨0⟩
  obtain ⟨made, scraped⟩ := answered (by decide +kernel)
  obtain ⟨other, other_mounted, -, missed⟩ := scraped_iff_askable query ⟨0⟩
  refine ⟨odd, query, ⟨server, mounted, made, fun t => (scraped t).1⟩, other, other_mounted, ?_⟩
  exact missed (by decide +kernel) "GET" "/metrics" _ (by decide +kernel)

/-- A server can be up whose metrics no request gets. -/
theorem queryPath_never_scraped :
    queryPath.Valid ∧
      ∃ server, Server.mount ⟨0⟩ queryPath.observability.metricsPath = some server ∧
        ∀ target r, Request.make "GET" target = some r →
          ∀ t, (server.respond t r).2.status = 404 := by
  have valid : queryPath.Valid := by decide +kernel
  have fine : Config.pathProblem "/metrics?x" = none := (Config.valid_iff.1 valid).2
  have unaskable : ¬ Askable "/metrics?x" := by decide +kernel
  refine ⟨valid, ⟨⟨"/metrics?x".toList.map .char⟩, ⟨0⟩⟩, ?_, fun target r made t => ?_⟩
  · exact congrArg (Option.map fun route => Server.mk route ⟨0⟩) (parse_of_pathProblem fine)
  · rw [Server.status_respond, ← Bool.not_eq_true, matchesPath_chars]
    intro same
    have askable := askable_of_make made (by rw [same]; decide)
    exact unaskable (same ▸ askable)

end WorkerTelemetry.Http
