import Blockstor.Dispatch.Mesh

namespace Blockstor.Dispatch

open Framework List

/-- The blocks of a `.res` file that hold options; those of a peer device stand in the connections. -/
inductive Section
  | net
  | options
  | disk
  | handlers
  | peerDevice
  deriving DecidableEq

structure Net where
  protocolC : Bool
  sharedSecret : String
  options : Props

/-- What a `.res` file is written from. -/
structure Conf where
  name : String
  net : Net
  hosts : List Host
  volumes : List ResVolume
  options : Props
  disk : Props
  handlers : Props
  peerDevice : Props
  connections : List DesiredConnection

abbrev Statement := String × String

structure ConfFile where
  name : String
  protocol : Bool
  net : List Statement
  options : List Statement
  disk : List Statement
  handlers : List Statement
  hosts : List OnBlock
  connections : List (Connection × List Statement)

inductive BuildErr
  | nameRequired
  | unrepresentableValue (block : Section) (key : String) (c : Char)

variable (m : Props) (r : Conf)

def sortedKeys : List String := (m.items.map Prod.fst).mergeSort fun a b => a ≤ b

def statements : List Statement := (sortedKeys m).map fun k => (k,m.get k)

def unrepresentable (c : Char) : Bool := c= '\n' ∨ c= '\r' ∨ c= '\x00'

def validateOptionValue (block : Section) (s : Statement) : Option BuildErr :=
  (s.2.toList.find? unrepresentable).map (.unrepresentableValue block s.1)

def sharedSecretOption : String := "shared-secret"

section

variable (r : Conf)

/-- The blocks in the order in which their values are checked. -/
def Conf.blocks : List (Section × Props) :=
  [(.net,r.net.options),(.options,r.options),(.disk,r.disk),(.handlers,r.handlers),
    (.peerDevice,r.peerDevice)]

def checkValues : Option BuildErr :=
  (validateOptionValue .net (sharedSecretOption,r.net.sharedSecret)).or
    (r.blocks.findSome? fun b => (statements b.2).findSome? (validateOptionValue b.1))

/-- The typed secret stands first and keeps out those among the options. -/
def writeNet (n : Net) : List Statement :=
  if n.sharedSecret="" then statements n.options
  else (sharedSecretOption,n.sharedSecret)::
    (statements n.options).filter fun s => !Text.equalFold s.1 sharedSecretOption

def written : ConfFile where
  name := r.name
  protocol := r.net.protocolC && r.net.options.get "protocol"=""
  net := writeNet r.net
  options := statements r.options
  disk := statements r.disk
  handlers := statements r.handlers
  hosts := r.hosts.map (onBlock r.volumes)
  connections := (writeConnectionMesh r.connections r.hosts).map (·,statements r.peerDevice)

def Build : Except BuildErr ConfFile :=
  if r.name="" then .error .nameRequired
  else match checkValues r with
  | some e => .error e
  | none => .ok (written r)

end

theorem sortedKeys_perm : (sortedKeys m).Perm (m.items.map Prod.fst) :=
  mergeSort_perm _ _

theorem mem_statements {m : Props} {s : Statement} : s∈statements m ↔ m.find s.1=some s.2 := by
  have hkey : s.1∈sortedKeys m ↔ ∃v,(s.1,v)∈m.items := by
    rw [(sortedKeys_perm m).mem_iff]
    simp
  simp only [statements,mem_map,Props.get]
  constructor
  · rintro ⟨k,hk,rfl⟩
    obtain ⟨v,hv⟩ := hkey.mp hk
    rw [Dict.find_eq_some.mpr hv]
    rfl
  · intro h
    refine ⟨s.1,hkey.mpr ⟨s.2,Dict.find_eq_some.mp h⟩,?_⟩
    rw [h]
    rfl

theorem statements_nodup : ((statements m).map Prod.fst).Nodup := by
  have hkeys : (statements m).map Prod.fst=sortedKeys m := by
    rw [statements,map_map]
    exact map_id _
  rw [hkeys]
  exact (sortedKeys_perm m).nodup_iff.mpr m.nodup

theorem writeNet_nodup (n : Net) : ((writeNet n).map Prod.fst).Nodup := by
  unfold writeNet
  split
  · exact statements_nodup n.options
  · refine nodup_cons.mpr ⟨fun h => ?_,?_⟩
    · obtain ⟨s,hs,hname⟩ := mem_map.mp h
      have hfold := (mem_filter.mp hs).2
      rw [hname,Text.equalFold_refl] at hfold
      cases hfold
    · exact (statements_nodup n.options).sublist (filter_sublist.map _)

theorem build_ok {r : Conf} {f : ConfFile} :
    Build r=.ok f ↔ r.name≠"" ∧ checkValues r=none ∧ f=written r := by
  unfold Build
  split
  · simp [*]
  · rename_i hname
    cases checkValues r with
    | some e => simp
    | none => simp [hname,eq_comm (a := f)]

def Spellable (value : String) : Prop := ∀c∈value.toList,unrepresentable c=false

theorem validateOptionValue_eq_none {block : Section} {s : Statement} :
    validateOptionValue block s=none ↔ Spellable s.2 := by
  simp [validateOptionValue,Spellable]

theorem checkValues_eq_none {r : Conf} : checkValues r=none ↔
    Spellable r.net.sharedSecret ∧ ∀b∈r.blocks,∀s : Statement,b.2.find s.1=some s.2 → Spellable s.2 := by
  rw [checkValues,Option.or_eq_none_iff,validateOptionValue_eq_none]
  simp only [findSome?_eq_none_iff,validateOptionValue_eq_none,mem_statements]

theorem written_mesh :
    (written r).connections.map Prod.fst=writeConnectionMesh r.connections r.hosts := by
  rw [written,map_map]
  exact map_id _

section Paths

variable (conns : List DesiredConnection) (A B : Host)

/-- The two ends that a configured path gives to a pair of hosts. -/
def Configured (e : Endpoint × Endpoint) : Prop := ∃c∈conns,∃p∈c.paths,
  c.nodeA=A.nodeName ∧ c.nodeB=B.nodeName ∧ e=(⟨p.addressA,A.port⟩,⟨p.addressB,B.port⟩) ∨
  c.nodeA=B.nodeName ∧ c.nodeB=A.nodeName ∧ e=(⟨p.addressB,A.port⟩,⟨p.addressA,B.port⟩)

def defaultEnds : Endpoint × Endpoint := (⟨A.address,A.port⟩,⟨B.address,B.port⟩)

theorem mem_lookupPaths {a b : String} {q : DesiredConnectionPath} (h : q∈lookupPaths conns a b) :
    ∃c∈conns,∃p∈c.paths,c.nodeA=a ∧ c.nodeB=b ∧ q=p ∨
      c.nodeA=b ∧ c.nodeB=a ∧ q=⟨p.name,p.addressB,p.addressA⟩ := by
  induction conns with
  | nil => cases h
  | cons c conns ih =>
    simp only [lookupPaths] at h
    split at h
    · rename_i hc
      exact ⟨c,.head _,q,h,.inl ⟨hc.1,hc.2,rfl⟩⟩
    split at h
    · rename_i hc
      obtain ⟨p,hp,rfl⟩ := mem_map.mp h
      exact ⟨c,.head _,p,hp,.inr ⟨hc.1,hc.2,rfl⟩⟩
    · obtain ⟨c,hc,hrest⟩ := ih h
      exact ⟨c,.tail _ hc,hrest⟩

/-- A connection has `path` blocks with configured ends, or just the addresses of the hosts. -/
theorem link_ends :
    (∀e∈(link conns A B).2,(link conns A B).1=true → Configured conns A B e) ∧
    ((link conns A B).1=false → (link conns A B).2=[defaultEnds A B]) ∧
    ((∀e,¬Configured conns A B e) → (link conns A B).1=false) := by
  have hconf (q : DesiredConnectionPath) (hq : q∈lookupPaths conns A.nodeName B.nodeName) :
      Configured conns A B (⟨q.addressA,A.port⟩,⟨q.addressB,B.port⟩) := by
    obtain ⟨c,hc,p,hp,⟨ha,hb,rfl⟩|⟨ha,hb,rfl⟩⟩ := mem_lookupPaths conns hq
    · exact ⟨c,hc,q,hp,.inl ⟨ha,hb,rfl⟩⟩
    · exact ⟨c,hc,p,hp,.inr ⟨ha,hb,rfl⟩⟩
  simp only [link,writeOneConnection]
  generalize lookupPaths conns A.nodeName B.nodeName=paths at hconf
  cases paths with
  | nil => simp [defaultEnds]
  | cons q paths =>
    refine ⟨fun e he _ => ?_,by simp,fun h => absurd (hconf q (.head _)) (h _)⟩
    rw [if_pos (by simp)] at he
    obtain ⟨q',hq',rfl⟩ := mem_map.mp he
    exact hconf q' hq'

end Paths

/-- One connection for each pair of hosts, and no option of the net block twice. -/
structure Meshed (r : Conf) (f : ConfFile) : Prop where
  pair : ∀A∈r.hosts,∀B∈r.hosts,A≠B → ∃explicit ends,
    (f.connections.map Prod.fst).filterMap (Connection.seenFrom A.nodeName B.nodeName)=
      [(explicit,ends)] ∧
    (∀e∈ends,explicit=true → Configured r.connections A B e) ∧
    (explicit=false → ends=[defaultEnds A B]) ∧
    ((∀e,¬Configured r.connections A B e) → explicit=false)
  only : ∀c∈f.connections,∃A∈r.hosts,∃B∈r.hosts,A≠B ∧ c.1.hostA=A.nodeName ∧ c.1.hostB=B.nodeName
  net : (f.net.map Prod.fst).Nodup

def pairOfHosts : Conf where
  name := "pvc-1"
  net := ⟨true,"",.empty⟩
  hosts := [⟨"n1","10.0.0.1",7000,0,true,false⟩,⟨"n2","10.0.0.2",7000,1,false,false⟩]
  volumes := []
  options := .empty
  disk := .empty
  handlers := .empty
  peerDevice := .empty
  connections := [⟨"n2","n1",[⟨"p","10.1.0.2","10.1.0.1"⟩]⟩]

end Blockstor.Dispatch
