import Steward.Host.Threads
import Steward.Session.State

/-! The commands on the register of domains and on its ledger. -/

set_option autoImplicit false

namespace Steward.Session

open Domain

/-- Put a changed register in place, if the change succeeded. -/
def reregister (session : Session) (changed : Except Error Registry) : Progress × Session :=
  match changed with
  | .error error => session.refuse error
  | .ok registry => session.changed (session.host.adopt registry)

/-- Tell something about a live domain. -/
def ofDomain (session : Session) (domain : DomainId) (write : Record → Value) :
    Progress × Session :=
  session.told (session.host.registry.record domain) write

/-- Release bytes and tell how many. -/
def released (session : Session) (release : Nat × Registry) : Progress × Session :=
  { session with host := session.host.adopt release.2 }.answer (.natural release.1)

def performDomain (session : Session) (thread : ThreadId) (command : DomainCommand) :
    Progress × Session :=
  let registry := session.host.registry
  match command with
  | .create domain main manager => session.reregister (registry.create domain main manager)
  | .createHere domain manager => session.reregister (registry.create domain thread manager)
  | .admitThread parent => session.registered (registry.admitThread parent) fun _ => .nothing
  | .mayAcquire parent =>
      let (admitted, registry) := registry.admitThread parent
      session.registered (.ok admitted.toOption, registry) fun granted => .flag granted.isSome
  | .acquire parent child => session.reregister (registry.acquireThread parent child)
  | .reserve parent child =>
      session.registered (registry.reserveThread parent child) (.optional .domain)
  | .release other => session.attempted (session.host.releaseThread other) fun _ => .nothing
  | .unload domain => session.changed (session.host.adopt (registry.unload domain))
  | .rudeUnload => session.changed (session.host.adopt registry.rudeUnload)
  | .zombies => session.answer (.natural registry.zombies)
  | .isSnippet other => session.answer (.flag (registry.isSnippet other))
  | .first =>
      session.answer (.list [.optional (fun first => .domain first.1) registry.first,
        .optional (fun first => .text first.2) registry.first])
  | .domainOf other => session.answer (.optional .domain (registry.domainOf? other))
  | .mainThread domain => session.ofDomain domain fun record => .thread record.mainThread
  | .threadCount domain => session.ofDomain domain fun record => .natural record.threads
  | .memoryUsage domain => session.ofDomain domain fun record => .natural record.bytes
  | .threadMemory other => session.answer (.natural (registry.threadMemory other))
  | .resetCounters domain => session.reregister (registry.resetCounters domain)
  | .list => session.answer (.items .domain registry.live)
  | .mayAcquireBytes other bytes =>
      let (granted, registry) := registry.admitBytes other bytes
      session.registered (.ok granted, registry) .flag
  | .acquireBytes other bytes address =>
      session.changed (session.host.adopt (registry.charge other bytes (.address address)))
  | .releaseBytes address => session.released (registry.release (.address address))
  | .releasePartial address bytes =>
      session.released (registry.releasePartial (.address address) bytes)

end Steward.Session
