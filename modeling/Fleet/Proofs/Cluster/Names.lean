import Fleet.Proofs.Cluster.Listing
import Fleet.Proofs.Except
import Fleet.Session

/-!
# Names of clients

A client carries the name of the context it was made for, whether it follows a script or reaches a
cluster of a configuration (`Session.named_factory`). So does every client that is kept
(`Registry.ReachedBy.named`).

That a factory names its clients so is the property `Factory.Named`. There is a lemma for each of
the two factories, and a registry reached with factories of a kind keeps only clients that such
factories make, so the property passes to the registry without a look at how it was reached.
-/

namespace Fleet

/-- Every client carries the name of the context it is made for. -/
def Cluster.Factory.Named (factory : Cluster.Factory) : Prop :=
  ∀ context client, factory context = .ok client → client.context = context

/-- The connection of a context is named for it. -/
lemma Kubeconfig.context_connection {k : Kubeconfig} {t : Files.Tree} {name : String}
    {c : Connection} (made : k.connection t name = .ok c) : c.context = name := by
  unfold connection at made
  dsimp only at made
  split at made
  · obtain ⟨context, -, made⟩ := bind_eq_ok.1 made
    split at made
    · obtain ⟨cluster, -, made⟩ := bind_eq_ok.1 made
      obtain ⟨user, -, made⟩ := bind_eq_ok.1 made
      split at made
      · cases made
      · split at made
        · obtain ⟨server, -, made⟩ := bind_eq_ok.1 made
          obtain ⟨authority, -, made⟩ := bind_eq_ok.1 made
          obtain ⟨auth, -, made⟩ := bind_eq_ok.1 made
          obtain ⟨certificate, -, made⟩ := bind_eq_ok.1 made
          obtain ⟨key, -, made⟩ := bind_eq_ok.1 made
          obtain ⟨identity, -, made⟩ := bind_eq_ok.1 made
          cases made
          rfl
        · cases made
    · cases made
  · cases made

namespace Cluster

/-- Clients of scripted contexts are named for their contexts. -/
lemma Roster.named_factory (roster : Roster) : Factory.Named roster.factory := by
  intro context client made
  obtain ⟨s, rfl⟩ := script_of_factory made
  rfl

/-- A link is one of the context that was resolved. -/
lemma Api.context_linkOf {settings : Throttle} {k : Kubeconfig} {t : Files.Tree} {context : String}
    {l : Link} (made : linkOf settings k t context = .ok l) : l.connection.context = context := by
  obtain ⟨c, resolved, made⟩ := bind_eq_ok.1 made
  unfold Kubeconfig.resolve at resolved
  split at resolved
  · rename_i connected
    cases resolved
    rw [← Kubeconfig.context_connection connected]
    unfold connect at made
    split at made
    · cases made
    · split at made
      · cases made
      · cases made
        rfl
  · cases resolved

/-- Clients of configured contexts are named for their contexts. -/
lemma Api.named_factory (settings : Throttle) (transport : Transport) (k : Kubeconfig)
    (t : Files.Tree) : Factory.Named (factory settings transport k t) := by
  intro context client made
  obtain ⟨l, linked, made⟩ := bind_eq_ok.1 made
  cases made
  exact context_linkOf linked

/-- A client is kept for the context that it is named for. -/
lemma Registry.ReachedBy.named {r : Registry} {context : String} {h : Handle}
    (reached : r.ReachedBy Factory.Named) (kept : r.find? context = some h) :
    h.client.context = context :=
  reached.client (fun _ named => named) (context, h) (mem_of_find? kept)

end Cluster

/-- Clients of a session are named for their contexts, wherever these come from. -/
lemma Session.named_factory (s : Session) : s.factory.Named := by
  unfold factory Origin.factory
  cases s.origin with
  | files source transport =>
    exact Cluster.Api.named_factory s.settings.client transport source.config s.files
  | scripted roster => exact roster.named_factory

end Fleet
