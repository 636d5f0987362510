import ShootMachines.Schema.Basic

/-!
# DNS settings of pods

The name servers, search domains and resolver options that a pod's DNS policy may leave open.
-/

namespace ShootMachines

/-- A resolver option. -/
structure DnsOption where
  name : Option String
  value : Option String
  deriving DecidableEq, Repr

/-- DNS settings of a pod. -/
structure DnsConfig where
  nameservers : Option (List String)
  options : Option (List DnsOption)
  searches : Option (List String)
  deriving DecidableEq, Repr

/-- A resolver option is an object; both of its fields may be missing. -/
def DnsOption.schema : Schema DnsOption :=
  .ofParts .tolerant
    (.optional "name" .text <|
      .optional "value" .text .nil)
    (fun (name, value, ()) => ⟨name, value⟩)
    (fun option => (option.name, option.value, ()))

/-- DNS settings are an object; every field may be missing. -/
def DnsConfig.schema : Schema DnsConfig :=
  .ofParts .tolerant
    (.optional "nameservers" (.list .text) <|
      .optional "options" (.list DnsOption.schema) <|
      .optional "searches" (.list .text) .nil)
    (fun (nameservers, options, searches, ()) => ⟨nameservers, options, searches⟩)
    (fun config => (config.nameservers, config.options, config.searches, ()))

end ShootMachines
