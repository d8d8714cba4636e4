import EventRelay.Proofs.Config.Parts
import EventRelay.Proofs.Files.Parent

namespace EventRelay.Config

open Text (max16 max64 maxSigned64)

variable {σ : Type} {c : Config}

def Kind.isWide : Kind → Bool
  | .nat max => maxSigned64 ≤ max
  | _ => true

theorem Key.bounded_of_wide {k : Key σ} {s : σ} (wide : k.kind.isWide = true)
    (small : ¬ TooLarge (k.content s)) : k.Bounded s := by
  intro max n kind held
  rw [kind, Kind.isWide, decide_eq_true_eq] at wide
  exact Nat.le_trans (Nat.le_of_not_lt fun large => small ⟨n, held, Int.ofNat_lt.mpr large⟩) wide

theorem Key.bounded_of_port {k : Key σ} {s : σ} {port : Nat} (kind : k.kind = .nat max16)
    (held : k.content s = some (.integer port)) (small : port ≤ max16) : k.Bounded s := by
  intro max n kind' held'
  have bound := Kind.nat.inj (kind.symm.trans kind')
  have value := Toml.Value.integer.inj (Option.some.inj (held.symm.trans held'))
  omega

theorem wide_or_port_server (s : ServerConfig) : ∀ k ∈ own serverKeys, k.kind.isWide = true ∨
    k.kind = .nat max16 ∧ k.content s = some (.integer s.port) := by
  simp [own, serverKeys, Kind.isWide, max64, maxSigned64]

theorem wide_or_port_smtp (s : SmtpConfig) : ∀ k ∈ own smtpKeys, k.kind.isWide = true ∨
    k.kind = .nat max16 ∧ k.content s = some (.integer s.port) := by
  simp [own, smtpKeys, Kind.isWide]

theorem takes_keys (port : c.server.port ≤ max16) (smtpPort : c.delivery.mail.smtp.port ≤ max16)
    (small : ∀ k ∈ keys, ¬ TooLarge (k.content c)) : ∀ k ∈ keys, k.Takes c := by
  have flat {σ : Type} {s : σ} {fs : List (Field σ)} {ks : List (Key σ)} (describe : Describe fs ks)
      (wide : ∀ k ∈ ks, k.kind.isWide = true) (small : ∀ k ∈ ks, ¬ TooLarge (k.content s)) :
      ∀ k ∈ ks, k.Takes s :=
    fun k hk => describe.takes k hk s (k.bounded_of_wide (wide k hk) (small k hk))
  -- only the two ports are narrower than the numbers of a document
  obtain ⟨server, log, delivery, mail, smtp, sound, webhook, daemon, client⟩ :=
    forall_mem_sections.mp small
  refine forall_mem_sections.mpr ⟨fun k hk => ?_, flat describe_log (by decide) log,
    flat describe_delivery (by decide) delivery, flat describe_mail (by decide) mail, fun k hk => ?_,
    flat describe_sound (by decide) sound, flat describe_webhook (by decide) webhook,
    flat describe_daemon (by decide) daemon, flat describe_client (by decide) client⟩
  · refine describe_server.takes k hk c.server ?_
    rcases wide_or_port_server c.server k hk with wide | ⟨kind, held⟩
    · exact k.bounded_of_wide wide (server k hk)
    · exact k.bounded_of_port kind held port
  · refine describe_smtp.takes k hk c.delivery.mail.smtp ?_
    rcases wide_or_port_smtp c.delivery.mail.smtp k hk with wide | ⟨kind, held⟩
    · exact k.bounded_of_wide wide (smtp k hk)
    · exact k.bounded_of_port kind held smtpPort

theorem parse?_of_render? (port : c.server.port ≤ max16)
    (smtpPort : c.delivery.mail.smtp.port ≤ max16) {text : String}
    (rendered : c.render? = some text) : parse? text = some c := by
  have small : ∀ k ∈ keys, ¬ TooLarge (k.content c) := fun k hk large => by
    rw [render?_eq_none_iff.mpr ⟨k, hk, large⟩] at rendered
    cases rendered
  rw [parse?, read_of_render? rendered]
  exact ofTable_contents (takes_keys port smtpPort small)

variable {fs : FileSystem} {path : Path}

def Writable (fs : FileSystem) (path : Path) : Prop :=
  ∃ made l, fs.makeParent path "create config directory" = (made, .ok ()) ∧
    made.openForWriting path = .ok l

theorem save_eq_ok_iff {fs' : FileSystem} : c.save fs path = (fs', .ok ()) ↔
    ∃ made text, fs.makeParent path "create config directory" = (made, .ok ()) ∧
      c.render? = some text ∧ made.write path (.ofString text) = .ok fs' := by
  unfold save
  rcases parent : fs.makeParent path "create config directory" with ⟨made, e | ⟨⟩⟩
  · simp
  rcases c.render? with _ | text
  · simp
  cases written : made.write path (.ofString text) <;> simp [written]

theorem exists_save_iff : (∃ fs', c.save fs path = (fs', .ok ())) ↔
    Writable fs path ∧ c.render? ≠ none := by
  simp only [save_eq_ok_iff, Writable]
  constructor
  · rintro ⟨fs', made, text, parent, rendered, written⟩
    obtain ⟨l, opened⟩ := FileSystem.exists_write_iff.mp ⟨fs', written⟩
    exact ⟨⟨made, l, parent, opened⟩, by simp [rendered]⟩
  · rintro ⟨⟨made, l, parent, opened⟩, described⟩
    obtain ⟨text, rendered⟩ := Option.ne_none_iff_exists'.mp described
    obtain ⟨fs', written⟩ := FileSystem.exists_write_iff.mpr ⟨l, opened⟩
    exact ⟨fs', made, text, parent, rendered, written⟩

/--
Every configuration that is saved is loaded as it was, whatever its texts hold. It is saved exactly
where a file can be written and none of its numbers is too large for a document. Ports are numbers
of 16 bits, and paths are texts.
-/
theorem load_of_save (port : c.server.port ≤ max16) (smtpPort : c.delivery.mail.smtp.port ≤ max16)
    (fs : FileSystem) (path : Path) :
    (∀ fs', c.save fs path = (fs', .ok ()) → load fs' path = .ok c) ∧
      ((∃ fs', c.save fs path = (fs', .ok ())) ↔
        Writable fs path ∧ ¬ ∃ k ∈ keys, TooLarge (k.content c)) := by
  refine ⟨fun fs' saved => ?_, ?_⟩
  · obtain ⟨made, text, -, rendered, written⟩ := save_eq_ok_iff.mp saved
    have small : ∀ k ∈ keys, ¬ TooLarge (k.content c) := fun k hk large => by
      rw [render?_eq_none_iff.mpr ⟨k, hk, large⟩] at rendered
      cases rendered
    obtain ⟨l, found⟩ := FileSystem.find_of_read (FileSystem.read_of_write written)
    exact load_of_ofTable (FileSystem.readText_of_find found) (read_of_render? rendered)
      (ofTable_contents (takes_keys port smtpPort small))
  · rw [exists_save_iff, Ne, render?_eq_none_iff]

theorem load_of_save_awkward :
    let c : Config :=
      { server := { bind := "", port := 65535 }
        log := { rotation := .lines, maxBytes := 9223372036854775807 }
        delivery :=
          { sink := .webhook
            mail :=
              { sender := "\"two\"\r\n \x27lines\x27 \\", recipients := [], args := ["", "\\\n"]
                smtp := { tls := .startTls, password := some "" } }
            webhook := { url := some "" } }
        daemon := { workingDirectory := ⟨"a\nb"⟩ } }
    ∃ fs, c.save .empty ⟨"conf"⟩ = (fs, .ok ()) ∧ load fs ⟨"conf"⟩ = .ok c := by
  intro c
  have name := FileSystem.isName_of_plain "conf" (by decide)
  have writable : Writable .empty ⟨"conf"⟩ :=
    ⟨_, _, FileSystem.makeParent_of_hasParent name.hasParent _, name.openForWriting rfl⟩
  have small : ¬ ∃ k ∈ keys, TooLarge (k.content c) := by
    simp [c, keys, serverKeys, logKeys, deliveryKeys, mailKeys, smtpKeys, soundKeys, webhookKeys,
      daemonKeys, clientKeys, TooLarge, maxSigned64]
  obtain ⟨loaded, saved⟩ := load_of_save (c := c) (by decide) (by decide) .empty ⟨"conf"⟩
  obtain ⟨fs, done⟩ := saved.mpr ⟨writable, small⟩
  exact ⟨fs, done, loaded fs done⟩

end EventRelay.Config
