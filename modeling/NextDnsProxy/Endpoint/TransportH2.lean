import Mathlib.Data.List.Nodup

/-!
# The DoH transport's candidates and request rewrite (`transport_h2.go`)

`newTransportH2` builds the HTTP/2 transport a DoH endpoint sends its queries through. It dials
every candidate address of the endpoint in parallel, and `endpointAddrs` lists those candidates:
each bootstrap IP on port 443, or else the endpoint's hostname. `transport.RoundTrip` sends each
request to the address it was made for while keeping the endpoint's hostname in the `Host`
header. It rewrites the caller's request in place, so a request that comes back to it, as a retry
does, has been rewritten already.

* **`endpointAddrs_spec`** — the candidates are one per bootstrap address, in order, each joined
  with port 443 (an IPv6 literal in brackets), or the hostname alone; distinct bootstrap addresses
  give distinct candidates.
* `roundTrip_spec` — `RoundTrip` hands on a request for the transport's address with the
  hostname as `Host`, keeping the request's path unless the transport has one, and rewriting a
  request it has rewritten already changes nothing.
-/

namespace NextDnsProxy.Endpoint

/-! ### Candidate addresses -/

/-- `net.JoinHostPort`: a host with a colon is taken for an IPv6 literal and bracketed. -/
def joinHostPort (host port : String) : String :=
  if ':' ∈ host.data then "[" ++ host ++ "]:" ++ port else host ++ ":" ++ port

/-- The fields of a `DOHEndpoint` that `endpointAddrs` reads. -/
structure DOHEndpoint where
  hostname : String
  bootstrap : List String

/-- `endpointAddrs` (transport_h2.go:76–85). -/
def endpointAddrs (e : DOHEndpoint) : List String :=
  if e.bootstrap.length ≠ 0 then e.bootstrap.map (joinHostPort · "443")
  else [joinHostPort e.hostname "443"]

theorem joinHostPort_data (host port : String) :
    (joinHostPort host port).data =
      if ':' ∈ host.data then '[' :: (host.data ++ ']' :: ':' :: port.data)
      else host.data ++ ':' :: port.data := by
  unfold joinHostPort
  split <;> simp [String.data_append]

/-- **`JoinHostPort` loses nothing of the host**: two hosts joined with one port give one address
only if they are the same. A bracketed address is not a plain one, since a bracketed host has a
colon. -/
theorem joinHostPort_injective (port : String) : Function.Injective (joinHostPort · port) := by
  intro h₁ h₂ he
  have hd := congrArg String.data he
  simp only [joinHostPort_data] at hd
  apply String.ext
  split_ifs at hd with c₁ c₂ c₂
  · simpa using hd
  · -- the plain host would be the bracketed one, colon included
    have : h₂.data ++ ':' :: port.data = ('[' :: (h₁.data ++ [']'])) ++ ':' :: port.data := by
      simpa using hd.symm
    exact absurd (List.append_cancel_right this ▸
      List.mem_cons_of_mem _ (List.mem_append_left _ c₁)) c₂
  · have : h₁.data ++ ':' :: port.data = ('[' :: (h₂.data ++ [']'])) ++ ':' :: port.data := by
      simpa using hd
    exact absurd (List.append_cancel_right this ▸
      List.mem_cons_of_mem _ (List.mem_append_left _ c₂)) c₁
  · simpa using hd

/-- **The candidates `DialParallel` races.** -/
theorem endpointAddrs_spec (e : DOHEndpoint) :
    endpointAddrs e = (if e.bootstrap = [] then [e.hostname] else e.bootstrap).map
      (joinHostPort · "443") ∧
    (e.bootstrap.Nodup → (endpointAddrs e).Nodup) := by
  by_cases hb : e.bootstrap = []
  · simp [endpointAddrs, hb]
  · have h : endpointAddrs e = e.bootstrap.map (joinHostPort · "443") := by
      simp [endpointAddrs, hb]
    rw [h, if_neg hb]
    exact ⟨rfl, fun hn => hn.map (joinHostPort_injective "443")⟩

theorem endpointAddrs_spec_two :
    endpointAddrs ⟨"example.com", ["192.0.2.1", "2001:db8::1"]⟩ =
        (if (["192.0.2.1", "2001:db8::1"] : List String) = [] then ["example.com"]
          else ["192.0.2.1", "2001:db8::1"]).map (joinHostPort · "443") ∧
      ["192.0.2.1", "2001:db8::1"].Nodup ∧
      (endpointAddrs ⟨"example.com", ["192.0.2.1", "2001:db8::1"]⟩).Nodup :=
  ⟨(endpointAddrs_spec ⟨"example.com", ["192.0.2.1", "2001:db8::1"]⟩).1, by decide,
    (endpointAddrs_spec ⟨"example.com", ["192.0.2.1", "2001:db8::1"]⟩).2 (by decide)⟩

example : endpointAddrs ⟨"example.com", ["192.0.2.1", "2001:db8::1"]⟩ =
    ["192.0.2.1:443", "[2001:db8::1]:443"] := by decide

/-! ### The request rewrite -/

/-- The fields of a request's `*url.URL` that `RoundTrip` writes. -/
structure URL where
  host : String
  path : String
  deriving DecidableEq

/-- The fields of an `*http.Request` that `RoundTrip` writes. -/
structure Request where
  url : URL
  host : String
  deriving DecidableEq

/-- `transport` (transport_h2.go:11–16): the endpoint's hostname and path, and the address the
transport was made for. -/
structure Transport where
  hostname : String
  path : String
  addr : String

/-- What `transport.RoundTrip` (transport_h2.go:67–74) does to the request before handing it on:
it is also what the caller's request becomes. -/
def Transport.roundTrip (t : Transport) (req : Request) : Request :=
  let req := { req with url := { req.url with host := t.addr }, host := t.hostname }
  if t.path ≠ "" then { req with url := { req.url with path := t.path } } else req

/-- What `RoundTrip` hands on. -/
theorem roundTrip_spec (t : Transport) (req : Request) :
    (t.roundTrip req).url.host = t.addr ∧ (t.roundTrip req).host = t.hostname ∧
      (t.roundTrip req).url.path = (if t.path = "" then req.url.path else t.path) ∧
      t.roundTrip (t.roundTrip req) = t.roundTrip req := by
  by_cases hp : t.path = "" <;> simp [Transport.roundTrip, hp]

end NextDnsProxy.Endpoint
