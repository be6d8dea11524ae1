import AmqpEndpoints.Proofs.References
import AmqpEndpoints.Factory

/-!
# Broker urls of the two schemes

What a url holds behind its scheme and the two slashes does not depend on the scheme. So the urls of
both schemes with the same rest are read to the same uri, or neither is, but for the scheme and the
port that it stands for where the rest gives none.
-/

set_option autoImplicit false

namespace AmqpEndpoints

/-!
## References behind a start without any
-/

namespace Text

theorem not_infix_append {c : Char} {marker start text : List Char} (free : c ∉ start)
    (other : ¬ c :: marker <:+: text) : ¬ c :: marker <:+: start ++ text := by
  induction start with
  | nil => exact other
  | cons d start ih =>
      obtain ⟨different, rest⟩ := not_or.mp (List.mem_cons.not.mp free)
      rw [List.cons_append, List.infix_cons_iff, not_or]
      exact ⟨fun starts => different (List.cons_prefix_cons.mp starts).1, ih rest⟩

namespace Template

/-- A template with more in front of its first text. -/
def prepend (start : List Char) : Template → Template
  | plain text => .plain (start ++ text)
  | unterminated text tail => .unterminated (start ++ text) tail
  | hole text key rest => .hole (start ++ text) key rest

theorem Decomposes.prepend {c : Char} {marker start text : List Char} {template : Template}
    (free : c ∉ start) (decomposes : Decomposes (c :: marker) text template) :
    Decomposes (c :: marker) (start ++ text) (template.prepend start) := by
  cases decomposes with
  | plain other => exact .plain (not_infix_append free other)
  | unterminated other unclosed =>
      simpa only [Template.prepend, List.append_assoc] using
        Decomposes.unterminated (not_infix_append free other) unclosed
  | hole other unclosed rest =>
      simpa only [Template.prepend, List.append_assoc] using
        Decomposes.hole (not_infix_append free other) unclosed rest

theorem fill_prepend (value? : String → Option String) (start : List Char) (template : Template) :
    (template.prepend start).fill value? = (template.fill value?).map (start ++ ·) := by
  cases template with
  | plain text => rfl
  | unterminated text tail => rfl
  | hole text key rest =>
      rw [prepend, fill, fill]
      cases value? (String.ofList key) with
      | none => rfl
      | some value =>
          dsimp only
          cases rest.fill value? with
          | error gap => rfl
          | ok filled => simp [Except.map]

end Template

end Text

/-- In front of a text, a start without percent signs stays as it is when references are replaced. -/
theorem Environment.resolve_append (environment : Environment) {start : String}
    (free : '%' ∉ start.toList) (rest : String) :
    (∀ filled, environment.resolve rest = .ok filled →
      environment.resolve (start ++ rest) = .ok (start ++ filled)) ∧
    ∀ failure, environment.resolve rest = .error failure →
      ∃ other, environment.resolve (start ++ rest) = .error other := by
  have marker : Environment.marker.toList = '%' :: "env\x7b".toList := by decide
  have parsed : Text.Template.parse Environment.marker.toList (start ++ rest).toList =
      (Text.Template.parse Environment.marker.toList rest.toList).prepend start.toList := by
    rw [String.toList_append, marker]
    refine (Text.Template.Decomposes.eq_parse (by decide) (.prepend free ?_)).symm
    exact Text.Template.parse_decomposes (List.cons_ne_nil _ _) _
  unfold Environment.resolve Text.fillHoles
  rw [parsed, Text.Template.fill_prepend]
  cases (Text.Template.parse Environment.marker.toList rest.toList).fill environment.value? with
  | ok filled =>
      have whole : String.ofList (start.toList ++ filled) = start ++ String.ofList filled := by
        rw [String.ofList_append, String.ofList_toList]
      refine ⟨fun _ same => ?_, nofun⟩
      cases same
      exact congrArg Except.ok whole
  | error gap => cases gap <;> exact ⟨nofun, fun _ _ => ⟨_, rfl⟩⟩

/-!
## Schemes
-/

/-- What a url of a scheme starts with. -/
def Scheme.start (scheme : Scheme) : String :=
  scheme.name ++ "://"

theorem dropWhile_reverse_append {p : Char → Bool} {start : List Char} (some : start ≠ [])
    (free : start.all (fun c => !p c) = true) (rest : List Char) :
    ((start ++ rest).reverse.dropWhile p).reverse = start ++ (rest.reverse.dropWhile p).reverse := by
  have kept : start.reverse.dropWhile p = start.reverse := by
    obtain ⟨c, others, turned⟩ := List.exists_cons_of_ne_nil (List.reverse_ne_nil_iff.mpr some)
    rw [turned]
    have member : c ∈ start := List.mem_reverse.mp (turned ▸ List.mem_cons_self)
    exact List.dropWhile_cons_of_neg (by simpa using List.all_eq_true.mp free c member)
  rw [List.reverse_append, List.dropWhile_append]
  split
  · rename_i nothing
    rw [kept, List.reverse_reverse, List.isEmpty_iff.mp nothing]
    simp
  · simp

theorem trimBlanks_start (scheme : Scheme) (rest : List Char) :
    Text.trimBlanks (scheme.start.toList ++ rest) =
      scheme.start.toList ++ (Text.dropBlanks rest.reverse).reverse := by
  have visible : scheme.start.toList.all (fun c => !Text.isBlank c) = true := by
    cases scheme <;> rfl
  have front : Text.dropBlanks (scheme.start.toList ++ rest) = scheme.start.toList ++ rest := by
    cases scheme <;> rfl
  rw [Text.trimBlanks, front]
  exact dropWhile_reverse_append (by cases scheme <;> decide +kernel) visible rest

namespace Url

theorem significant_start (scheme : Scheme) (rest : List Char) :
    significant (scheme.start.toList ++ rest) = scheme.start.toList ++
      ((rest.reverse.dropWhile fun c => decide (c.toNat ≤ 0x20)).reverse.filter
        fun c => !isIgnored c) := by
  have visible : scheme.start.toList.all (fun c => !decide (c.toNat ≤ 0x20)) = true := by
    cases scheme <;> rfl
  have kept : scheme.start.toList.all (fun c => !isIgnored c) = true := by
    cases scheme <;> rfl
  have front : (scheme.start.toList ++ rest).dropWhile (fun c => decide (c.toNat ≤ 0x20)) =
      scheme.start.toList ++ rest := by
    cases scheme <;> rfl
  unfold significant
  dsimp only
  rw [front, dropWhile_reverse_append (by cases scheme <;> decide +kernel) visible,
    List.filter_append, List.filter_eq_self.mpr (List.all_eq_true.mp kept)]

theorem scheme?_start (scheme : Scheme) (rest : List Char) :
    scheme? (scheme.start.toList ++ rest) = some (scheme.name, '/' :: '/' :: rest) := by
  cases scheme <;> rfl

/-- Behind the scheme a url is read in the same way for both schemes. -/
theorem parse_start (rest : List Char) :
    (∃ fault, ∀ scheme : Scheme, parse (scheme.start.toList ++ rest) = .error fault) ∨
    ∃ parts, ∀ scheme : Scheme,
      parse (scheme.start.toList ++ rest) = .ok (.general scheme.name parts) := by
  have general : ∀ scheme : Scheme, scheme.name ≠ "file" ∧
      webSchemes.contains scheme.name = false := by
    intro scheme
    cases scheme <;> decide
  have whole : ∀ scheme : Scheme, parse (scheme.start.toList ++ rest) =
      (readAuthority false Host.read
        ((rest.reverse.dropWhile fun c => decide (c.toNat ≤ 0x20)).reverse.filter
          fun c => !isIgnored c)).map fun found =>
        .general scheme.name ⟨found.1.username, found.1.password, found.2, found.1.port,
          (readPathAndQuery found.1.rest).1, (readPathAndQuery found.1.rest).2⟩ := by
    intro scheme
    unfold parse
    rw [significant_start, scheme?_start]
    dsimp only
    rw [if_neg (general scheme).1, (general scheme).2]
    rfl
  cases read : readAuthority false Host.read
      ((rest.reverse.dropWhile fun c => decide (c.toNat ≤ 0x20)).reverse.filter
        fun c => !isIgnored c) with
  | error fault => exact .inl ⟨fault, fun scheme => by rw [whole, read]; rfl⟩
  | ok found => exact .inr ⟨_, fun scheme => by rw [whole, read]; rfl⟩

end Url

/-!
## Uris
-/

/-- Whether reading gives a uri for both schemes, the same but for the scheme and the port that it
stands for where none is given, or for neither. -/
def SchemesAgree {ε : Type} (port : Option UInt16) (read : Scheme → Except ε BrokerUri) : Prop :=
  (∀ scheme, ∃ fault, read scheme = .error fault) ∨
  ∃ target : BrokerUri, ∀ scheme : Scheme, read scheme =
    .ok { target with scheme := scheme, port := port.getD scheme.defaultPort }

theorem SchemesAgree.bind {α ε : Type} {port : Option UInt16} (first : Except ε α)
    {next : Scheme → α → Except ε BrokerUri}
    (later : ∀ value, SchemesAgree port fun scheme => next scheme value) :
    SchemesAgree port fun scheme => first >>= next scheme := by
  cases first with
  | error fault => exact .inl fun _ => ⟨fault, rfl⟩
  | ok value => exact later value

theorem BrokerUri.ofParts_schemesAgree (parts : UrlParts) :
    SchemesAgree parts.port fun scheme => ofParts scheme parts := by
  obtain ⟨username, password, host, port, path, query⟩ := parts
  unfold ofParts
  repeat refine .bind _ fun _ => ?_
  cases path <;>
  · repeat refine .bind _ fun _ => ?_
    exact .inr ⟨⟨.amqp, _, _, _, 0, _, _, _, _, _, _⟩, fun _ => rfl⟩

/-- Whether a configured url gives a port itself. -/
def GivesPort (environment : Environment) (url : String) : Prop :=
  ∃ resolved scheme parts, environment.resolve url = .ok resolved ∧
    Url.parse (Text.trim resolved).toList = .ok (.general scheme parts) ∧
    parts.port.isSome = true

/-- Text behind the start of a url, without the blanks at its end, is what is read of it. -/
theorem readBrokerUrl_start {environment : Environment} {rest filled : String}
    (resolved : environment.resolve rest = .ok filled) (scheme : Scheme) :
    ∃ text : String, environment.resolve (scheme.start ++ rest) = .ok text ∧
      (Text.trim text).toList =
        scheme.start.toList ++ (Text.dropBlanks filled.toList.reverse).reverse ∧
      readBrokerUrl environment (scheme.start ++ rest) =
        (BrokerUri.parse (Text.trim text)).mapError fun fault =>
          .configuration ("invalid broker-url: " ++ fault.message) := by
  have free : '%' ∉ scheme.start.toList := by cases scheme <;> decide +kernel
  have whole := (environment.resolve_append free rest).1 filled resolved
  have visible : Text.blank (scheme.start ++ filled) = false := by
    rw [Text.blank, String.toList_append, List.all_append]
    cases scheme <;> rfl
  refine ⟨_, whole, ?_, ?_⟩
  · rw [Text.trim, String.toList_ofList, String.toList_append, trimBlanks_start]
  · rw [readBrokerUrl, whole]
    simp only [bind, Except.bind, visible]
    cases BrokerUri.parse (Text.trim (scheme.start ++ filled)) <;> rfl

theorem BrokerUri.parse_general {text : String} {scheme : Scheme} {parts : UrlParts}
    (parsed : Url.parse text.toList = .ok (.general scheme.name parts)) :
    parse text = ofParts scheme parts := by
  have known : schemeOf scheme.name = .ok scheme := by cases scheme <;> rfl
  unfold parse
  rw [parsed]
  dsimp only
  rw [known]
  rfl

/-- Urls of both schemes with the same rest are read to the same uri, up to the scheme and the port
that it stands for. -/
theorem readBrokerUrl_schemesAgree (environment : Environment) (rest : String) :
    ∃ port : Option UInt16,
      SchemesAgree port (fun scheme => readBrokerUrl environment (scheme.start ++ rest)) ∧
      ∀ scheme : Scheme, GivesPort environment (scheme.start ++ rest) ↔ port.isSome = true := by
  cases resolved : environment.resolve rest with
  | error failure =>
      have failed : ∀ scheme : Scheme,
          ∃ other, environment.resolve (scheme.start ++ rest) = .error other := fun scheme =>
        (environment.resolve_append (by cases scheme <;> decide +kernel) rest).2 failure resolved
      refine ⟨none, .inl fun scheme => ?_, fun scheme => ?_⟩
      · obtain ⟨other, stopped⟩ := failed scheme
        exact ⟨other, by simp only [readBrokerUrl, stopped]; rfl⟩
      · obtain ⟨other, stopped⟩ := failed scheme
        simp [GivesPort, stopped]
  | ok filled =>
      have start := readBrokerUrl_start resolved
      rcases Url.parse_start (Text.dropBlanks filled.toList.reverse).reverse with
        ⟨fault, failed⟩ | ⟨parts, parsed⟩
      · refine ⟨none, .inl fun scheme => ?_, fun scheme => ?_⟩
        · obtain ⟨text, _, trimmed, read⟩ := start scheme
          dsimp only
          rw [read, BrokerUri.parse, trimmed, failed scheme]
          exact ⟨_, rfl⟩
        · obtain ⟨text, whole, trimmed, _⟩ := start scheme
          simp [GivesPort, whole, trimmed, failed scheme]
      · refine ⟨parts.port, ?_, fun scheme => ?_⟩
        · have read : ∀ scheme : Scheme, readBrokerUrl environment (scheme.start ++ rest) =
              (BrokerUri.ofParts scheme parts).mapError fun fault =>
                .configuration ("invalid broker-url: " ++ fault.message) := by
            intro scheme
            obtain ⟨text, _, trimmed, read⟩ := start scheme
            have general := parsed scheme
            rw [← trimmed] at general
            rw [read, BrokerUri.parse_general general]
          rcases BrokerUri.ofParts_schemesAgree parts with stopped | ⟨target, same⟩
          · refine .inl fun scheme => ?_
            obtain ⟨fault, stops⟩ := stopped scheme
            exact ⟨_, by simp only [read, stops]; rfl⟩
          · exact .inr ⟨target, fun scheme => by simp only [read, same]; rfl⟩
        · obtain ⟨text, whole, trimmed, _⟩ := start scheme
          constructor
          · rintro ⟨_, _, others, same, read, given⟩
            cases whole.symm.trans same
            rw [trimmed, parsed scheme] at read
            cases read
            exact given
          · exact fun given => ⟨text, _, parts, whole, by rw [trimmed, parsed scheme], given⟩

end AmqpEndpoints
