import Issuer.Database.Script
/-!
# Packaged files

The files that come with the program: the scripts of its database and its logging configuration.
They lie in directories below that of the program, and are named by the directory, with points
between its components, and the path from there.
-/
namespace Issuer.Packaged

/-! ## Contents -/

def loggingConfiguration : Text := "[loggers]
keys=root

[handlers]
keys=stream_handler

[formatters]
keys=formatter

[logger_root]
level=WARNING
handlers=stream_handler

[handler_stream_handler]
class=StreamHandler
level=DEBUG
formatter=formatter
args=(sys.stderr,)

[formatter_formatter]
format=%(asctime)s %(levelname)s %(pathname)s:%(lineno)d %(message)s
"

def identitiesScript : Text := "-- Issuer identities and their state history
CREATE TABLE identities (
    identifier text NOT NULL PRIMARY KEY,
    created_at timestamptz NOT NULL DEFAULT CURRENT_TIMESTAMP
);

CREATE TABLE identity_states (
    state_id bigserial NOT NULL PRIMARY KEY,
    identifier text NOT NULL REFERENCES identities (identifier),
    state text,
    root_of_roots text,
    claims_tree_root text,
    revocation_tree_root text,
    block_timestamp integer,
    block_number integer,
    tx_id text,
    previous_state text,
    status text NOT NULL,
    modified_at timestamptz NOT NULL DEFAULT CURRENT_TIMESTAMP,
    created_at timestamptz NOT NULL DEFAULT CURRENT_TIMESTAMP,
    UNIQUE (state)
);

CREATE INDEX identity_states_identifier_idx ON identity_states (identifier);
"

def schemasScript : Text := "-- depends: 0001.identities
-- Imported credential schemas
CREATE TABLE schemas (
    id uuid NOT NULL PRIMARY KEY,
    issuer_id text NOT NULL REFERENCES identities (identifier),
    url text NOT NULL,
    type text NOT NULL,
    hash text NOT NULL,
    attributes text NOT NULL,
    created_at timestamptz NOT NULL DEFAULT CURRENT_TIMESTAMP
);

CREATE INDEX schemas_issuer_id_idx ON schemas (issuer_id);
"

def claimsScript : Text := "-- depends: 0002.schemas
-- Issued credentials
CREATE TABLE claims (
    id uuid NOT NULL PRIMARY KEY,
    identifier text NOT NULL REFERENCES identities (identifier),
    issuer text NOT NULL,
    schema_hash text NOT NULL,
    schema_url text NOT NULL,
    schema_type text NOT NULL,
    other_identifier text NOT NULL,
    expiration integer NOT NULL,
    updatable boolean NOT NULL,
    version integer NOT NULL,
    rev_nonce numeric NOT NULL,
    revoked boolean NOT NULL DEFAULT false,
    signature_proof jsonb,
    mtp_proof jsonb,
    data jsonb NOT NULL,
    core_claim jsonb NOT NULL,
    identity_state text,
    created_at timestamptz NOT NULL DEFAULT CURRENT_TIMESTAMP,
    UNIQUE (identifier, rev_nonce)
);

CREATE INDEX claims_other_identifier_idx ON claims (other_identifier);
"

def linksScript : Text := "-- depends: 0002.schemas
-- Credential offer links; credential_attributes holds the converted values
CREATE TABLE links (
    id uuid NOT NULL PRIMARY KEY,
    issuer_id text NOT NULL REFERENCES identities (identifier),
    schema_id uuid NOT NULL REFERENCES schemas (id),
    max_issuance integer,
    valid_until timestamptz,
    credential_expiration timestamptz,
    credential_signature_proof boolean NOT NULL DEFAULT true,
    credential_mtp_proof boolean NOT NULL DEFAULT false,
    credential_attributes jsonb NOT NULL,
    issued_claims integer NOT NULL DEFAULT 0,
    active boolean NOT NULL DEFAULT true,
    created_at timestamptz NOT NULL DEFAULT CURRENT_TIMESTAMP
);

CREATE INDEX links_issuer_id_idx ON links (issuer_id);
"

/-! ## Files -/

abbrev File := List Text × Text

def scripts : List Text := [identitiesScript, schemasScript, claimsScript, linksScript]

def topDirectory : Text := "issuer_node"

def scriptDirectory : List Text := [topDirectory, "database", "migrations"]

def files : List File :=
  ([topDirectory, "config", "default_logging_config.ini"], loggingConfiguration) ::
    (Database.packagedIds.zip scripts).map fun (id, script) =>
      (scriptDirectory ++ [id ++ ".sql"], script)

def loggingConfigurationName : Text := "issuer_node.config:default_logging_config.ini"

def file? (package path : Text) : Option Text :=
  if path.startsWith "/" then none
  else files.lookup (package.split '.' ++ Disk.components path)

end Issuer.Packaged
