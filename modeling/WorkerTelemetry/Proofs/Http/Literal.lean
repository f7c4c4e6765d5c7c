import Mathlib.Data.List.Basic
import WorkerTelemetry.Config.Validation
import WorkerTelemetry.Http.Server

/-!
Paths and the routes they are mounted as. A path without braces is a route of single characters; one
with braces is refused, or has a capture, or two of its braces stand for one. Main statement: a path
has no problem exactly if it is mounted and its route meets this path and no other. Nothing is said
about which paths a request can ask for.
-/

namespace WorkerTelemetry.Http

namespace Route

/-- A brace, which a route does not take as it stands. -/
def IsBrace (c : Char) : Prop := c = '\x7b' ∨ c = '\x7d'

instance (c : Char) : Decidable (IsBrace c) := inferInstanceAs (Decidable (_ ∨ _))

variable {m : Char × Bool} {ms rest : List (Char × Bool)} {ps qs : List Piece} {p : Piece}
  {cs : List Char} {c x y : Char}

/-! ### What is read -/

theorem markBraces_cons (plain : ¬ IsBrace c) (cs : List Char) :
    markBraces (c :: cs) = (c, false) :: markBraces cs := by
  cases cs with
  | nil => rfl
  | cons d cs => rw [markBraces, if_neg fun doubled => plain doubled.2]

/-- Every mark stands for a character that is left out. -/
theorem length_markBraces (cs : List Char) :
    (markBraces cs).length + (markBraces cs).countP (·.2) = cs.length := by
  fun_induction markBraces cs with
  | case1 => rfl
  | case2 c => rfl
  | case3 c d cs doubled ih =>
    simp only [List.length_cons, List.countP_cons_of_pos]
    omega
  | case4 c d cs single ih =>
    simp only [List.length_cons, List.countP_cons, Bool.false_eq_true, if_false] at ih ⊢
    omega

theorem readPieces_char (taken : m.2 = true ∨ ¬ IsBrace m.1) (ms : List (Char × Bool)) :
    readPieces (m :: ms) = (readPieces ms).map (.char m.1 :: ·) := by
  obtain ⟨c, marked⟩ := m
  rw [readPieces]
  rcases taken with marked | plain
  · rw [if_pos marked]
  · have not_open : c ≠ '\x7b' := fun h => plain (.inl h)
    have not_close : c ≠ '\x7d' := fun h => plain (.inr h)
    simp [not_open, not_close]

/-- What a capture is: the rest of a route, or a segment, which a slash follows if anything does. -/
theorem readCapture_cases (read : readCapture ms = some (p, rest)) :
    p = .rest ∨ p = .capture ∧ (rest = [] ∨ ∃ marked more, rest = ('/', marked) :: more) := by
  cases ms with
  | nil => cases read
  | cons m ms =>
    simp only [readCapture] at read
    split at read
    · cases read
    · split at read
      · cases read
      · next n found closed =>
        split at read
        · split at read
          · cases read
          · cases read
            exact .inl rfl
        · split at read
          · cases read
            exact .inr ⟨rfl, .inl rfl⟩
          · next d more =>
            split at read
            · next slash =>
              cases read
              exact .inr ⟨rfl, .inr ⟨d.2, more, by rw [← slash]⟩⟩
            · cases read

/-- The first piece of a route is a character that is no brace or is marked, or a capture. -/
theorem readPieces_cases (read : readPieces (m :: ms) = some ps) :
    (∃ qs, ps = .char m.1 :: qs ∧ readPieces ms = some qs ∧ (m.2 = true ∨ ¬ IsBrace m.1)) ∨
    ∃ p rest qs, ps = p :: qs ∧ readCapture ms = some (p, rest) ∧ readPieces rest = some qs := by
  by_cases taken : m.2 = true ∨ ¬ IsBrace m.1
  · rw [readPieces_char taken] at read
    obtain ⟨qs, found, rfl⟩ := Option.map_eq_some_iff.1 read
    exact .inl ⟨qs, rfl, found, taken⟩
  · obtain ⟨c, marked⟩ := m
    obtain ⟨unmarked, brace⟩ := not_or.1 taken
    rw [readPieces, if_neg unmarked] at read
    rcases Decidable.not_not.1 brace with rfl | rfl
    · rw [if_neg (by decide), if_pos rfl] at read
      split at read
      · cases read
      · next p rest capture =>
        obtain ⟨qs, found, rfl⟩ := Option.map_eq_some_iff.1 read
        exact .inr ⟨p, rest, qs, rfl, capture, found⟩
    · rw [if_pos rfl] at read
      cases read

/-! ### Routes without braces -/

theorem readPieces_markBraces (plain : ∀ c ∈ cs, ¬ IsBrace c) :
    readPieces (markBraces cs) = some (cs.map .char) := by
  induction cs with
  | nil => rw [markBraces, readPieces]; rfl
  | cons c cs ih =>
    obtain ⟨hc, hcs⟩ := List.forall_mem_cons.1 plain
    rw [markBraces_cons hc, readPieces_char (.inr hc), ih hcs]
    rfl

/-- A route of single characters has read all of them, and no brace but marked ones. -/
theorem of_readPieces_chars (read : readPieces ms = some (cs.map .char)) :
    ms.map (·.1) = cs ∧ ∀ m ∈ ms, m.2 = true ∨ ¬ IsBrace m.1 := by
  induction ms generalizing cs with
  | nil =>
    have none_left : cs = [] := by simpa [readPieces] using read.symm
    simp [none_left]
  | cons m ms ih =>
    rcases readPieces_cases read with ⟨qs, same, found, taken⟩ | ⟨p, rest, qs, same, capture, -⟩
    · obtain ⟨d, rest, rfl, hd, rfl⟩ := List.map_eq_cons_iff.1 same
      obtain rfl := Piece.char.inj hd
      obtain ⟨chars, others⟩ := ih found
      exact ⟨congrArg (m.1 :: ·) chars, List.forall_mem_cons.2 ⟨taken, others⟩⟩
    · -- no capture is a character
      obtain ⟨d, rest, rfl, rfl, -⟩ := List.map_eq_cons_iff.1 same
      rcases readCapture_cases capture with h | ⟨h, -⟩ <;> cases h

/-! ### Routes with captures -/

/-- Every capture of a segment ends the route or is followed by a slash. -/
def Separated : List Piece → Prop
  | [] => True
  | .capture :: ps => (ps = [] ∨ ps.head? = some (.char '/')) ∧ Separated ps
  | _ :: ps => Separated ps

theorem separated_of_readPieces (read : readPieces ms = some ps) : Separated ps := by
  induction hn : ms.length using Nat.strongRecOn generalizing ms ps with
  | ind n ih =>
    subst hn
    cases ms with
    | nil =>
      rw [readPieces] at read
      cases read
      trivial
    | cons m ms =>
      rcases readPieces_cases read with ⟨qs, rfl, found, -⟩ | ⟨p, rest, qs, rfl, capture, found⟩
      · have later : Separated qs := ih ms.length (Nat.lt_succ_self _) found rfl
        exact later
      · have later := ih rest.length (Nat.lt_succ_of_lt (readCapture_length capture)) found rfl
        rcases readCapture_cases capture with rfl | ⟨rfl, rfl | ⟨marked, more, rfl⟩⟩
        · exact later
        · rw [readPieces] at found
          cases found
          exact ⟨.inl rfl, trivial⟩
        · rw [readPieces_char (.inr (show ¬ IsBrace '/' by decide))] at found
          obtain ⟨rs, -, rfl⟩ := Option.map_eq_some_iff.1 found
          exact ⟨.inr rfl, later⟩

/-- A path in which one character is in the place of every capture. -/
def fill (x : Char) : List Piece → List Char
  | [] => []
  | .char c :: ps => c :: fill x ps
  | _ :: ps => x :: fill x ps

theorem meets_fill (hx : x ≠ '/') (separated : Separated ps) : meets ps (fill x ps) = true := by
  induction ps with
  | nil => rfl
  | cons p ps ih =>
    cases p with
    | char c => simpa [fill, meets] using ih separated
    | capture =>
      obtain ⟨ends, later⟩ := separated
      have segment : (x :: fill x ps).takeWhile (· != '/') = [x] := by
        rcases ends with rfl | slash
        · simp [fill, hx]
        · obtain ⟨qs, rfl⟩ : ∃ qs, ps = .char '/' :: qs := by
            cases ps with
            | nil => cases slash
            | cons q qs => exact ⟨qs, by rw [Option.some.inj slash]⟩
          simp [fill, hx]
      simp [fill, meets, segment, ih later]
    | rest => simp [fill, meets]

/-- Two ways to fill in are the same only if there is nothing to fill in. -/
theorem eq_chars_of_fill (different : x ≠ y) (same : fill x ps = fill y ps) :
    ps = (fill x ps).map .char := by
  induction ps with
  | nil => rfl
  | cons p ps ih =>
    cases p with
    | char c =>
      rw [fill, List.map_cons, ← ih (List.cons.inj same).2]
    | capture => exact absurd (List.cons.inj same).1 different
    | rest => exact absurd (List.cons.inj same).1 different

/-! ### Routes that meet one path -/

/-- A route that meets one path only has the characters of this path for its pieces. -/
theorem pieces_of_meets_one {r : Route} {path : String} (separated : Separated r.pieces)
    (one : ∀ target, r.matchesPath target = true ↔ target = path) :
    r.pieces = path.toList.map .char := by
  have filled (x : Char) (hx : x ≠ '/') : fill x r.pieces = path.toList := by
    have met : r.matchesPath (String.ofList (fill x r.pieces)) = true := by
      rw [matchesPath, String.toList_ofList]
      exact meets_fill hx separated
    rw [← (one _).1 met, String.toList_ofList]
  have first := filled 'a' (by decide)
  have second := filled 'b' (by decide)
  have chars := eq_chars_of_fill (show 'a' ≠ 'b' by decide) (first.trans second.symm)
  rwa [first] at chars

/-- A path that is read as its own characters has no brace. -/
theorem plain_of_readPieces (read : readPieces (markBraces cs) = some (cs.map .char)) :
    ∀ c ∈ cs, ¬ IsBrace c := by
  obtain ⟨same, taken⟩ := of_readPieces_chars read
  have no_mark : (markBraces cs).countP (·.2) = 0 := by
    have length := length_markBraces cs
    have kept := congrArg List.length same
    rw [List.length_map] at kept
    omega
  intro c hc
  rw [← same] at hc
  obtain ⟨m, hm, rfl⟩ := List.mem_map.1 hc
  exact (taken m hm).resolve_left (List.countP_eq_zero.1 no_mark m hm)

end Route

/-! ### Paths without problem -/

variable {path : String}

/-- What is asked of a path, part by part. -/
theorem pathProblem_eq_none : Config.pathProblem path = none ↔
    path.toList.head? = some '/' ∧ (∀ c ∈ path.toList, ¬ Route.IsBrace c) ∧
      (Text.splitOnChar '/' path.toList).any Route.isOldCapture = false := by
  unfold Config.pathProblem Config.isLiteralPath
  by_cases rooted : path.toList.head? = some '/'
  · simp [rooted, Route.IsBrace, Route.isOldCapture]
  · simp [rooted]

/-- A path without problem is mounted as the route of its characters. -/
theorem parse_of_pathProblem (fine : Config.pathProblem path = none) :
    Route.parse path = some ⟨path.toList.map .char⟩ := by
  obtain ⟨rooted, plain, segments⟩ := pathProblem_eq_none.1 fine
  have no_capture : (path.toList.map Piece.char).count .capture = 0 := by
    rw [List.count_eq_zero]
    simp
  simp [Route.parse, rooted, segments, Route.readPieces_markBraces plain, no_capture]

theorem matchesPath_chars (path target : String) :
    Route.matchesPath ⟨path.toList.map .char⟩ target = true ↔ target = path := by
  rw [Route.matchesPath, Route.meets_chars, String.toList_inj, eq_comm]

/-- The paths without problem are those that are mounted and met by themselves only. -/
theorem pathProblem_eq_none_iff : Config.pathProblem path = none ↔
    ∃ route, Route.parse path = some route ∧
      ∀ target, route.matchesPath target = true ↔ target = path := by
  constructor
  · intro fine
    exact ⟨_, parse_of_pathProblem fine, matchesPath_chars path⟩
  · rintro ⟨route, parsed, one⟩
    simp only [Route.parse] at parsed
    split at parsed
    · cases parsed
    · next rooted =>
      split at parsed
      · cases parsed
      · next segments =>
        obtain ⟨pieces, read, bounded⟩ := Option.bind_eq_some_iff.1 parsed
        split at bounded
        · cases bounded
        · cases bounded
          have chars := Route.pieces_of_meets_one (Route.separated_of_readPieces read) one
          rw [show pieces = path.toList.map .char from chars] at read
          rw [pathProblem_eq_none]
          exact ⟨Decidable.not_not.1 rooted, Route.plain_of_readPieces read,
            Bool.not_eq_true _ ▸ segments⟩

/-- Any answer but one tells that the route was met. -/
theorem Server.status_respond (server : Server) (t : Telemetry) (r : Request) :
    (server.respond t r).2.status = 404 ↔ server.route.matchesPath r.path = false := by
  have scraped : (server.scrape t).2.status ≠ 404 := by
    unfold Server.scrape
    cases t.store.encode server.registry <;> simp
  unfold Server.respond
  by_cases missed : server.route.matchesPath r.path = false
  · simp [missed]
  · rw [if_neg missed]
    split
    · simp [missed, scraped]
    · split
      · simpa [missed] using scraped
      · simp [missed]

end WorkerTelemetry.Http
