import ShootMachines.Lookup.Basic
import ShootMachines.Machines.PoolPlan
import ShootMachines.Machines.Report

/-!
# Generating machine plans

A worker is turned into a machine plan in the provider cluster that its secret gives access to. The
plan of a worker is that of its pools, one after the other; the first failure ends the run.
-/

namespace ShootMachines

/-- The SSH key of the machines of a worker. -/
def Worker.sshKey (worker : Worker) : Except Failure String :=
  match worker.spec.sshPublicKey with
  | some (byte :: key) => .ok (Utf8.decodeLossy (byte :: key))
  | _ => .error (.precondition (.missingSshKey worker.metadata.anyName))

/-- What the pools of a worker share, taken from the worker and the resources around it. -/
def Setting.of (scheme : Scheme) (worker : Worker) (cluster : Cluster)
    (provider : ProviderCluster) : Except Failure Setting := do
  let status ← scheme.infrastructureStatus worker
  let converted ← convertConfig .infrastructureStatus status "InfrastructureStatus"
  let sshKey ← worker.sshKey
  let profileConfig ← scheme.profileConfig cluster.cloudProfile
  return {
    scheme := scheme
    worker := worker
    cluster := cluster
    provider := provider
    profileConfig := profileConfig
    networks := converted.object.networks
    networkTokens := status.tokens
    sshKey := sshKey }

/-- The machine plan of a worker in a provider cluster. -/
def MachinePlan.compile (scheme : Scheme) (worker : Worker) (cluster : Cluster)
    (provider : ProviderCluster) : Traced MachinePlan := do
  let setting ← Setting.of scheme worker cluster provider
  let pools ← Run.forEach setting.poolPlan worker.spec.pools
  let plan := pools.foldl addPool empty
  .info ("Generated " ++ toString plan.classes.length ++ " machine classes, " ++
    toString plan.deployments.length ++ " machine deployments, " ++
    toString plan.images.length ++ " machine images for worker " ++ worker.metadata.anyName)
  return plan

/-- The machine plan of a worker in the provider cluster that its secret gives access to. -/
def MachinePlan.generate (scheme : Scheme) (credentials : CredentialSource) (worker : Worker)
    (cluster : Cluster) : Traced MachinePlan := do
  let reference := worker.spec.secretRef
  .info ("Generating machine config for worker " ++ worker.metadata.key ++ " (" ++
    toString worker.spec.pools.length ++ " pools)")
  let kubeconfig ← credentials.kubeconfig reference
  let provider ← ProviderCluster.ofKubeconfig kubeconfig
  .debug ("Provider cluster namespace is " ++ provider.space ++ " (from secret " ++
    reference.space ++ "/" ++ reference.name ++ ")")
  compile scheme worker cluster provider

/-- The report of a worker: its machine plan, and what is written back to it. -/
def MachineReport.generate (scheme : Scheme) (credentials : CredentialSource) (worker : Worker)
    (cluster : Cluster) : Traced MachineReport := do
  let plan ← MachinePlan.generate scheme credentials worker cluster
  plan.report scheme worker

end ShootMachines
