import SenderPolicy.Idna.Table

/-!
# Table of mapped characters

What becomes of a character beyond ASCII in an internationalised name: the characters that are not allowed,
those that are dropped, and those that are replaced. Every other character is kept.
-/

namespace SenderPolicy.Idna

def disallowed : List Table.Range :=
  Table.ranges
    [0x000080_00009f_000000_000378_000379_000000_000380_000383_000000_00038b_000000_00038d_000000_0003a2,
      0x000530_000000_000557_000000_000590_000000_0005ca_0005cf_000000_0005eb_0005ee_000000_0005f5_000605,
      0x00061c_000000_0006dd_000000_00070e_00070f_000000_00074b_00074c_000000_0007b2_0007bf,
      0x0007fb_0007fc_000000_00082e_00082f_000000_00083f_000000_00085c_00085d_000000_00085f,
      0x00086b_00086f_000000_000890_000896_000000_0008e2_000000_000984_000000_00098d_00098e,
      0x000991_000992_000000_0009a9_000000_0009b1_000000_0009b3_0009b5_000000_0009ba_0009bb,
      0x0009c5_0009c6_000000_0009c9_0009ca_000000_0009cf_0009d6_000000_0009d8_0009db_000000_0009de,
      0x0009e4_0009e5_000000_0009ff_000a00_000000_000a04_000000_000a0b_000a0e_000000_000a11_000a12,
      0x000a29_000000_000a31_000000_000a34_000000_000a37_000000_000a3a_000a3b_000000_000a3d,
      0x000a43_000a46_000000_000a49_000a4a_000000_000a4e_000a50_000000_000a52_000a58_000000_000a5d,
      0x000a5f_000a65_000000_000a77_000a80_000000_000a84_000000_000a8e_000000_000a92_000000_000aa9,
      0x000ab1_000000_000ab4_000000_000aba_000abb_000000_000ac6_000000_000aca_000000_000ace_000acf,
      0x000ad1_000adf_000000_000ae4_000ae5_000000_000af2_000af8_000000_000b00_000000_000b04,
      0x000b0d_000b0e_000000_000b11_000b12_000000_000b29_000000_000b31_000000_000b34_000000_000b3a_000b3b,
      0x000b45_000b46_000000_000b49_000b4a_000000_000b4e_000b52_000000_000b58_000b5b_000000_000b5e,
      0x000b64_000b65_000000_000b78_000b81_000000_000b84_000000_000b8b_000b8d_000000_000b91,
      0x000b96_000b98_000000_000b9b_000000_000b9d_000000_000ba0_000ba2_000000_000ba5_000ba7,
      0x000bab_000bad_000000_000bba_000bbd_000000_000bc3_000bc5_000000_000bc9_000000_000bce_000bcf,
      0x000bd1_000bd6_000000_000bd8_000be5_000000_000bfb_000bff_000000_000c0d_000000_000c11_000000_000c29,
      0x000c3a_000c3b_000000_000c45_000000_000c49_000000_000c4e_000c54_000000_000c57_000000_000c5b,
      0x000c5e_000c5f_000000_000c64_000c65_000000_000c70_000c76_000000_000c8d_000000_000c91_000000_000ca9,
      0x000cb4_000000_000cba_000cbb_000000_000cc5_000000_000cc9_000000_000cce_000cd4_000000_000cd7_000cdb,
      0x000cdf_000000_000ce4_000ce5_000000_000cf0_000000_000cf4_000cff_000000_000d0d_000000_000d11,
      0x000d45_000000_000d49_000000_000d50_000d53_000000_000d64_000d65_000000_000d80_000000_000d84,
      0x000d97_000d99_000000_000db2_000000_000dbc_000000_000dbe_000dbf_000000_000dc7_000dc9,
      0x000dcb_000dce_000000_000dd5_000000_000dd7_000000_000de0_000de5_000000_000df0_000df1,
      0x000df5_000e00_000000_000e3b_000e3e_000000_000e5c_000e80_000000_000e83_000000_000e85_000000_000e8b,
      0x000ea4_000000_000ea6_000000_000ebe_000ebf_000000_000ec5_000000_000ec7_000000_000ecf,
      0x000eda_000edb_000000_000ee0_000eff_000000_000f48_000000_000f6d_000f70_000000_000f98_000000_000fbd,
      0x000fcd_000000_000fdb_000fff_000000_0010c6_000000_0010c8_0010cc_000000_0010ce_0010cf_000000_001249,
      0x00124e_00124f_000000_001257_000000_001259_000000_00125e_00125f_000000_001289_000000_00128e_00128f,
      0x0012b1_000000_0012b6_0012b7_000000_0012bf_000000_0012c1_000000_0012c6_0012c7_000000_0012d7,
      0x001311_000000_001316_001317_000000_00135b_00135c_000000_00137d_00137f_000000_00139a_00139f,
      0x0013f6_0013f7_000000_0013fe_0013ff_000000_001680_000000_00169d_00169f_000000_0016f9_0016ff,
      0x001716_00171e_000000_001737_00173f_000000_001754_00175f_000000_00176d_000000_001771,
      0x001774_00177f_000000_0017de_0017df_000000_0017ea_0017ef_000000_0017fa_0017ff_000000_00181a_00181f,
      0x001879_00187f_000000_0018ab_0018af_000000_0018f6_0018ff_000000_00191f_000000_00192c_00192f,
      0x00193c_00193f_000000_001941_001943_000000_00196e_00196f_000000_001975_00197f_000000_0019ac_0019af,
      0x0019ca_0019cf_000000_0019db_0019dd_000000_001a1c_001a1d_000000_001a5f_000000_001a7d_001a7e,
      0x001a8a_001a8f_000000_001a9a_001a9f_000000_001aae_001aaf_000000_001af1_001aff_000000_001b4d,
      0x001bf4_001bfb_000000_001c38_001c3a_000000_001c4a_001c4c_000000_001c8b_001c8f_000000_001cbb_001cbc,
      0x001cc8_001ccf_000000_001cfb_001cff_000000_001f16_001f17_000000_001f1e_001f1f_000000_001f46_001f47,
      0x001f4e_001f4f_000000_001f58_000000_001f5a_000000_001f5c_000000_001f5e_000000_001f7e_001f7f,
      0x001fb5_000000_001fc5_000000_001fd4_001fd5_000000_001fdc_000000_001ff0_001ff1_000000_001ff5,
      0x001fff_000000_00200e_00200f_000000_002024_002026_000000_002028_00202e_000000_002065_002069,
      0x002072_002073_000000_0020c5_0020cf_000000_0020f1_0020ff_000000_00218c_00218f_000000_00242a_00243f,
      0x00244b_00245f_000000_002488_00249b_000000_002b74_002b75_000000_002cf4_002cf8_000000_002d26,
      0x002d28_002d2c_000000_002d2e_002d2f_000000_002d68_002d6e_000000_002d71_002d7e_000000_002d97_002d9f,
      0x002da7_000000_002daf_000000_002db7_000000_002dbf_000000_002dc7_000000_002dcf_000000_002dd7,
      0x002ddf_000000_002e5e_002e5f_000000_002e64_002e7f_000000_002e9a_000000_002ef4_002eff,
      0x002fd6_002fff_000000_003040_000000_003097_003098_000000_003100_003104_000000_003130_000000_00318f,
      0x0031e6_0031ef_000000_00321f_000000_0033c2_000000_0033c7_000000_0033d8_000000_00a48d_00a48f,
      0x00a4c7_00a4cf_000000_00a62c_00a63f_000000_00a6f8_00a6ff_000000_00a7de_00a7e1_000000_00a7e3_00a7f0,
      0x00a82d_00a82f_000000_00a83a_00a83f_000000_00a878_00a87f_000000_00a8c6_00a8cd_000000_00a8da_00a8df,
      0x00a954_00a95e_000000_00a97d_00a97f_000000_00a9ce_000000_00a9da_00a9dd_000000_00a9ff,
      0x00aa37_00aa3f_000000_00aa4e_00aa4f_000000_00aa5a_00aa5b_000000_00aac3_00aada_000000_00aaf7_00ab00,
      0x00ab07_00ab08_000000_00ab0f_00ab10_000000_00ab17_00ab1f_000000_00ab27_000000_00ab2f,
      0x00ab6d_00ab6f_000000_00abee_00abef_000000_00abfa_00abff_000000_00d7a4_00d7af_000000_00d7c7_00d7ca,
      0x00d7fc_00f8ff_000000_00fa6e_00fa6f_000000_00fada_00faff_000000_00fb07_00fb12_000000_00fb18_00fb1c,
      0x00fb37_000000_00fb3d_000000_00fb3f_000000_00fb42_000000_00fb45_000000_00fdd0_00fdef_000000_00fe12,
      0x00fe19_00fe1f_000000_00fe30_000000_00fe52_00fe53_000000_00fe67_000000_00fe6c_00fe6f_000000_00fe75,
      0x00fefd_00fefe_000000_00ff00_000000_00ffbf_00ffc1_000000_00ffc8_00ffc9_000000_00ffd0_00ffd1,
      0x00ffd8_00ffd9_000000_00ffdd_00ffdf_000000_00ffe7_000000_00ffef_00ffff_000000_01000c_000000_010027,
      0x01003b_000000_01003e_000000_01004e_01004f_000000_01005e_01007f_000000_0100fb_0100ff,
      0x010103_010106_000000_010134_010136_000000_01018f_000000_01019d_01019f_000000_0101a1_0101cf,
      0x0101fe_01027f_000000_01029d_01029f_000000_0102d1_0102df_000000_0102fc_0102ff_000000_010324_01032c,
      0x01034b_01034f_000000_01037b_01037f_000000_01039e_000000_0103c4_0103c7_000000_0103d6_0103ff,
      0x01049e_01049f_000000_0104aa_0104af_000000_0104d4_0104d7_000000_0104fc_0104ff_000000_010528_01052f,
      0x010564_01056e_000000_01057b_000000_01058b_000000_010593_000000_010596_000000_0105a2_000000_0105b2,
      0x0105ba_000000_0105bd_0105bf_000000_0105f4_0105ff_000000_010737_01073f_000000_010756_01075f,
      0x010768_01077f_000000_010786_000000_0107b1_000000_0107c0_0107ff_000000_010806_010807_000000_010809,
      0x010836_000000_010839_01083b_000000_01083d_01083e_000000_010856_000000_01089f_0108a6,
      0x0108b0_0108df_000000_0108f3_000000_0108f6_0108fa_000000_01091c_01091e_000000_01093a_01093e,
      0x01095a_01097f_000000_0109b8_0109bb_000000_0109d0_0109d1_000000_010a04_000000_010a07_010a0b,
      0x010a14_000000_010a18_000000_010a36_010a37_000000_010a3b_010a3e_000000_010a49_010a4f,
      0x010a59_010a5f_000000_010aa0_010abf_000000_010ae7_010aea_000000_010af7_010aff_000000_010b36_010b38,
      0x010b56_010b57_000000_010b73_010b77_000000_010b92_010b98_000000_010b9d_010ba8_000000_010bb0_010bff,
      0x010c49_010c7f_000000_010cb3_010cbf_000000_010cf3_010cf9_000000_010d28_010d2f_000000_010d3a_010d3f,
      0x010d66_010d68_000000_010d86_010d8d_000000_010d90_010e5f_000000_010e7f_000000_010eaa,
      0x010eae_010eaf_000000_010eb2_010ec1_000000_010ec8_000000_010eda_010edf_000000_010ee1_010eef,
      0x010f28_010f2f_000000_010f5a_010f6f_000000_010f8a_010faf_000000_010fcc_010fdf_000000_010ff7_010fff,
      0x01104e_011051_000000_011076_01107e_000000_0110bd_000000_0110c3_0110cf_000000_0110e9_0110ef,
      0x0110fa_0110ff_000000_011135_000000_011148_01114f_000000_011177_01117f_000000_0111e0,
      0x0111f5_0111ff_000000_011212_000000_011242_01127f_000000_011287_000000_011289_000000_01128e,
      0x01129e_000000_0112aa_0112af_000000_0112eb_0112ef_000000_0112fa_0112ff_000000_011304,
      0x01130d_01130e_000000_011311_011312_000000_011329_000000_011331_000000_011334_000000_01133a,
      0x011345_011346_000000_011349_01134a_000000_01134e_01134f_000000_011351_011356_000000_011358_01135c,
      0x011364_011365_000000_01136d_01136f_000000_011375_01137f_000000_01138a_000000_01138c_01138d,
      0x01138f_000000_0113b6_000000_0113c1_000000_0113c3_0113c4_000000_0113c6_000000_0113cb_000000_0113d6,
      0x0113d9_0113e0_000000_0113e3_0113ff_000000_01145c_000000_011462_01147f_000000_0114c8_0114cf,
      0x0114da_01157f_000000_0115b6_0115b7_000000_0115de_0115ff_000000_011645_01164f_000000_01165a_01165f,
      0x01166d_01167f_000000_0116ba_0116bf_000000_0116ca_0116cf_000000_0116e4_0116ff_000000_01171b_01171c,
      0x01172c_01172f_000000_011747_0117ff_000000_01183c_01189f_000000_0118f3_0118fe_000000_011907_011908,
      0x01190a_01190b_000000_011914_000000_011917_000000_011936_000000_011939_01193a_000000_011947_01194f,
      0x01195a_01199f_000000_0119a8_0119a9_000000_0119d8_0119d9_000000_0119e5_0119ff_000000_011a48_011a4f,
      0x011aa3_011aaf_000000_011af9_011aff_000000_011b0b_011b5f_000000_011b68_011bbf_000000_011be2_011bef,
      0x011bfa_011bff_000000_011c09_000000_011c37_000000_011c46_011c4f_000000_011c6d_011c6f,
      0x011c90_011c91_000000_011ca8_000000_011cb7_011cff_000000_011d07_000000_011d0a_000000_011d37_011d39,
      0x011d3b_000000_011d3e_000000_011d48_011d4f_000000_011d5a_011d5f_000000_011d66_000000_011d69,
      0x011d8f_000000_011d92_000000_011d99_011d9f_000000_011daa_011daf_000000_011ddc_011ddf,
      0x011dea_011edf_000000_011ef9_011eff_000000_011f11_000000_011f3b_011f3d_000000_011f5b_011faf,
      0x011fb1_011fbf_000000_011ff2_011ffe_000000_01239a_0123ff_000000_012475_01247f_000000_012544_01254f,
      0x012687_012f8f_000000_012ff3_012fff_000000_013430_01343f_000000_013456_01345f_000000_0143fb_0143ff,
      0x014647_0160ff_000000_01613a_0167ff_000000_016a39_016a3f_000000_016a5f_000000_016a6a_016a6d,
      0x016abf_000000_016aca_016acf_000000_016aee_016aef_000000_016af6_016aff_000000_016b46_016b4f,
      0x016b5a_000000_016b62_000000_016b78_016b7c_000000_016b90_016d3f_000000_016d7a_016d7f,
      0x016d9e_016d9f_000000_016daa_016e3f_000000_016e9b_016e9f_000000_016eb9_016eba_000000_016ed4_016eff,
      0x016f4b_016f4e_000000_016f88_016f8e_000000_016fa0_016fdf_000000_016fe5_016fef_000000_016ff7_016fff,
      0x018cd6_018cfe_000000_018d1f_018d7f_000000_018df3_018dff_000000_019192_01919f_000000_0191d3_01afef,
      0x01aff4_000000_01affc_000000_01afff_000000_01b123_01b131_000000_01b133_01b14f_000000_01b153_01b154,
      0x01b156_01b163_000000_01b168_01b16f_000000_01b2fc_01bbff_000000_01bc6b_01bc6f_000000_01bc7d_01bc7f,
      0x01bc89_01bc8f_000000_01bc9a_01bc9b_000000_01bca4_01cbff_000000_01ccfd_01ccff_000000_01ceb4_01ceb9,
      0x01ced1_000000_01ced3_01cedf_000000_01cef1_01ceff_000000_01cf2e_01cf2f_000000_01cf47_01cf4f,
      0x01cfc4_01cfff_000000_01d0f6_01d0ff_000000_01d127_01d128_000000_01d1eb_01d1ff_000000_01d246_01d2bf,
      0x01d2d4_01d2df_000000_01d2f4_01d2ff_000000_01d357_01d35f_000000_01d379_01d3ff_000000_01d455,
      0x01d49d_000000_01d4a0_01d4a1_000000_01d4a3_01d4a4_000000_01d4a7_01d4a8_000000_01d4ad_000000_01d4ba,
      0x01d4bc_000000_01d4c4_000000_01d506_000000_01d50b_01d50c_000000_01d515_000000_01d51d_000000_01d53a,
      0x01d53f_000000_01d545_000000_01d547_01d549_000000_01d551_000000_01d6a7_000000_01d7cc_01d7cd,
      0x01da8c_01da9a_000000_01daa0_000000_01dab0_01daff_000000_01dc00_01deff_000000_01df1f_01df24,
      0x01df2c_01dfff_000000_01e007_000000_01e019_01e01a_000000_01e022_000000_01e025_000000_01e02b_01e02f,
      0x01e06e_01e08e_000000_01e090_01e0ff_000000_01e12d_01e12f_000000_01e13e_01e13f_000000_01e14a_01e14d,
      0x01e150_01e28f_000000_01e2af_01e2bf_000000_01e2fa_01e2fe_000000_01e300_01e4cf_000000_01e4fa_01e5cf,
      0x01e5fb_01e5fe_000000_01e600_01e6bf_000000_01e6df_000000_01e6f6_01e6fd_000000_01e700_01e7df,
      0x01e7e7_000000_01e7ec_000000_01e7ef_000000_01e7ff_000000_01e8c5_01e8c6_000000_01e8d7_01e8ff,
      0x01e94c_01e94f_000000_01e95a_01e95d_000000_01e960_01ec70_000000_01ecb5_01ed00_000000_01ed3e_01edff,
      0x01ee04_000000_01ee20_000000_01ee23_000000_01ee25_01ee26_000000_01ee28_000000_01ee33_000000_01ee38,
      0x01ee3a_000000_01ee3c_01ee41_000000_01ee43_01ee46_000000_01ee48_000000_01ee4a_000000_01ee4c,
      0x01ee50_000000_01ee53_000000_01ee55_01ee56_000000_01ee58_000000_01ee5a_000000_01ee5c_000000_01ee5e,
      0x01ee60_000000_01ee63_000000_01ee65_01ee66_000000_01ee6b_000000_01ee73_000000_01ee78_000000_01ee7d,
      0x01ee7f_000000_01ee8a_000000_01ee9c_01eea0_000000_01eea4_000000_01eeaa_000000_01eebc_01eeef,
      0x01eef2_01efff_000000_01f02c_01f02f_000000_01f094_01f09f_000000_01f0af_01f0b0_000000_01f0c0,
      0x01f0d0_000000_01f0f6_01f100_000000_01f1ae_01f1e5_000000_01f203_01f20f_000000_01f23c_01f23f,
      0x01f249_01f24f_000000_01f252_01f25f_000000_01f266_01f2ff_000000_01f6da_01f6db_000000_01f6ed_01f6ef,
      0x01f6fd_01f6ff_000000_01f7da_01f7df_000000_01f7ec_01f7ef_000000_01f7f1_01f7ff_000000_01f80c_01f80f,
      0x01f848_01f84f_000000_01f85a_01f85f_000000_01f888_01f88f_000000_01f8ae_01f8af_000000_01f8bc_01f8bf,
      0x01f8c2_01f8cf_000000_01f8d9_01f8ff_000000_01fa58_01fa5f_000000_01fa6e_01fa6f_000000_01fa7d_01fa7f,
      0x01fac7_000000_01fac9_01facc_000000_01fade_000000_01faec_01faee_000000_01fafb_01faff_000000_01fb93,
      0x01fbfb_01ffff_000000_02a6e0_02a6ff_000000_02b81e_02b81f_000000_02ceae_02ceaf_000000_02ebe1_02ebef,
      0x02ee5e_02f7ff_000000_02fa1e_02ffff_000000_03134b_03134f_000000_03347a_03cfff_000000_03fc40_0e00ff,
      0x0e01f0_10ffff]

def ignored : List Table.Range :=
  Table.ranges
    [0x0000ad_000000_00034f_000000_00115f_001160_000000_0017b4_0017b5_000000_00180b_00180f_000000_00200b,
      0x002060_002064_000000_00206a_00206f_000000_003164_000000_00fe00_00fe0f_000000_00feff_000000_00ffa0,
      0x01bca0_01bca3_000000_01d173_01d17a_000000_0e0100_0e01ef]

/-- Runs of characters that are replaced by one character each: the first character, how many there are, the
distance between them, the first replacement, and the distance between replacements, which is left out where all
have the same. -/
def mappedRuns : List (List Nat) :=
  Table.entries
    [0x0000c0_000017_000001_0000e0_000001_000000_0000d8_000007_000001_0000f8_000001,
      0x000100_000018_000002_000101_000002_000000_000139_000003_000002_00013a_000002,
      0x000141_000004_000002_000142_000002_000000_00014a_000017_000002_00014b_000002,
      0x000179_000003_000002_00017a_000002_000000_0001a0_000003_000002_0001a1_000002,
      0x0001cd_000008_000002_0001ce_000002_000000_0001de_000009_000002_0001df_000002,
      0x0001f8_000014_000002_0001f9_000002_000000_000222_000009_000002_000223_000002,
      0x000246_000005_000002_000247_000002_000000_000388_000003_000001_0003ad_000001,
      0x000391_000011_000001_0003b1_000001_000000_0003a3_000009_000001_0003c3_000001,
      0x0003d8_00000c_000002_0003d9_000002_000000_0003fd_000003_000001_00037b_000001,
      0x000400_000010_000001_000450_000001_000000_000410_000020_000001_000430_000001,
      0x000460_000011_000002_000461_000002_000000_00048a_00001b_000002_00048b_000002,
      0x0004c1_000007_000002_0004c2_000002_000000_0004d0_000030_000002_0004d1_000002,
      0x000531_000026_000001_000561_000001_000000_0010a0_000026_000001_002d00_000001,
      0x0013f8_000006_000001_0013f0_000001_000000_001c90_00002b_000001_0010d0_000001,
      0x001cbd_000003_000001_0010fd_000001_000000_001d31_000005_000002_000065_000002,
      0x001d34_000004_000002_000068_000002_000000_001d3e_000003_000001_000070_000002,
      0x001d5d_000003_000001_0003b2_000001_000000_001da4_000003_000001_000268_000001,
      0x001dae_000004_000001_000272_000001_000000_001dbc_000003_000001_000290_000001,
      0x001e00_00004b_000002_001e01_000002_000000_001ea0_000030_000002_001ea1_000002,
      0x001f08_000008_000001_001f00_000001_000000_001f18_000006_000001_001f10_000001,
      0x001f28_000008_000001_001f20_000001_000000_001f38_000008_000001_001f30_000001,
      0x001f48_000006_000001_001f40_000001_000000_001f59_000004_000002_001f51_000002,
      0x001f68_000008_000001_001f60_000001_000000_001f71_000004_000002_0003ac_000001,
      0x001f79_000003_000002_0003cc_000001_000000_002000_00000b_000001_000020,
      0x002074_000006_000001_000034_000001_000000_002080_00000a_000001_000030_000001,
      0x002096_000004_000001_00006b_000001_000000_00210a_000003_000003_000067_000001,
      0x002115_000003_000004_00006e_000002_000000_002135_000004_000001_0005d0_000001,
      0x002460_000009_000001_000031_000001_000000_0024b6_00001a_000001_000061_000001,
      0x0024d0_00001a_000001_000061_000001_000000_002c00_000030_000001_002c30_000001,
      0x002c67_000003_000002_002c68_000002_000000_002c80_000032_000002_002c81_000002,
      0x003137_000003_000001_001103_000001_000000_00313a_000006_000001_0011b0_000001,
      0x003141_000003_000001_001106_000001_000000_003145_00000a_000001_001109_000001,
      0x00314f_000015_000001_001161_000001_000000_003172_000003_000001_00111e_000002,
      0x003176_000003_000001_001127_000002_000000_003179_000004_000001_00112c_000001,
      0x003184_000003_000001_001157_000001_000000_003194_000003_000002_004e09_000001,
      0x003263_000003_000001_001105_000001_000000_003269_000005_000001_00110e_000001,
      0x0032d0_000005_000001_0030a2_000002_000000_0032d5_00000c_000001_0030ab_000002,
      0x0032e1_000004_000001_0030c4_000002_000000_0032e5_000005_000001_0030cb_000001,
      0x0032ee_000005_000001_0030de_000001_000000_0032f3_000003_000001_0030e4_000002,
      0x0032f6_000005_000001_0030e9_000001_000000_0032fb_000004_000001_0030ef_000001,
      0x00a640_000017_000002_00a641_000002_000000_00a680_00000e_000002_00a681_000002,
      0x00a722_000007_000002_00a723_000002_000000_00a732_00001f_000002_00a733_000002,
      0x00a77e_000005_000002_00a77f_000002_000000_00a796_00000a_000002_00a797_000002,
      0x00a7b4_000008_000002_00a7b5_000002_000000_00a7cc_000008_000002_00a7cd_000002,
      0x00ab70_000050_000001_0013a0_000001_000000_00fb24_000003_000001_0005db_000001,
      0x00fb52_000004_000001_00067b_000000_00fb56_000004_000001_00067e_000000_00fb5a_000004_000001_000680,
      0x00fb5e_000004_000001_00067a_000000_00fb62_000004_000001_00067f_000000_00fb66_000004_000001_000679,
      0x00fb6a_000004_000001_0006a4_000000_00fb6e_000004_000001_0006a6_000000_00fb72_000004_000001_000684,
      0x00fb76_000004_000001_000683_000000_00fb7a_000004_000001_000686_000000_00fb7e_000004_000001_000687,
      0x00fb8e_000004_000001_0006a9_000000_00fb92_000004_000001_0006af_000000_00fb96_000004_000001_0006b3,
      0x00fb9a_000004_000001_0006b1_000000_00fba0_000004_000001_0006bb_000000_00fba6_000004_000001_0006c1,
      0x00fbaa_000004_000001_0006be_000000_00fbd3_000004_000001_0006ad_000000_00fbe4_000004_000001_0006d0,
      0x00fbfc_000004_000001_0006cc_000000_00fe41_000004_000001_00300c_000001,
      0x00fe4d_000003_000001_00005f_000000_00fe80_000006_000002_000621_000001,
      0x00fe81_000005_000002_000622_000001_000000_00fe8b_000007_000003_000626_000001,
      0x00fe8d_000005_000003_000627_000001_000000_00fe98_000005_000004_00062a_000001,
      0x00fe9b_000004_000004_00062b_000001_000000_00fe9e_000004_000004_00062c_000001,
      0x00fea1_000003_000004_00062d_000001_000000_00feab_000004_000002_000630_000001,
      0x00feac_000004_000002_000630_000001_000000_00feb3_000008_000004_000633_000001,
      0x00feb4_000008_000004_000633_000001_000000_00feb5_000007_000004_000634_000001,
      0x00feb6_000007_000004_000634_000001_000000_00fed1_000008_000004_000641_000001,
      0x00fed2_000008_000004_000641_000001_000000_00fed3_000007_000004_000641_000001,
      0x00fed4_000007_000004_000641_000001_000000_00fef1_000004_000001_00064a,
      0x00ff01_000020_000001_000021_000001_000000_00ff21_00001a_000001_000061_000001,
      0x00ff3b_000024_000001_00005b_000001_000000_00ff67_000005_000001_0030a1_000002,
      0x00ff6c_000003_000001_0030e3_000002_000000_00ff71_000005_000001_0030a2_000002,
      0x00ff76_00000c_000001_0030ab_000002_000000_00ff82_000004_000001_0030c4_000002,
      0x00ff86_000005_000001_0030cb_000001_000000_00ff8f_000005_000001_0030de_000001,
      0x00ff94_000003_000001_0030e4_000002_000000_00ff97_000005_000001_0030e9_000001,
      0x00ffa7_000003_000001_001103_000001_000000_00ffaa_000006_000001_0011b0_000001,
      0x00ffb1_000003_000001_001106_000001_000000_00ffb5_00000a_000001_001109_000001,
      0x00ffc2_000006_000001_001161_000001_000000_00ffca_000006_000001_001167_000001,
      0x00ffd2_000006_000001_00116d_000001_000000_00ffda_000003_000001_001173_000001,
      0x00ffe9_000004_000001_002190_000001_000000_010400_000028_000001_010428_000001,
      0x0104b0_000024_000001_0104d8_000001_000000_010570_000013_000002_010597_000002,
      0x010571_000005_000002_010598_000002_000000_01057d_000007_000002_0105a4_000002,
      0x01058d_000003_000002_0105b4_000002_000000_0107b6_000003_000001_0001c0_000001,
      0x010c80_000033_000001_010cc0_000001_000000_010d50_000016_000001_010d70_000001,
      0x0118a0_000020_000001_0118c0_000001_000000_016e40_000020_000001_016e60_000001,
      0x016ea0_000019_000001_016ebb_000001_000000_01ccd6_00001a_000001_000061_000001,
      0x01ccf0_00000a_000001_000030_000001_000000_01d400_00001a_000001_000061_000001,
      0x01d41a_00001a_000001_000061_000001_000000_01d434_00001a_000001_000061_000001,
      0x01d44e_00000d_000002_000061_000002_000000_01d44f_000003_000002_000062_000002,
      0x01d457_000009_000002_00006a_000002_000000_01d468_00001a_000001_000061_000001,
      0x01d482_00001a_000001_000061_000001_000000_01d4a9_000004_000001_00006e_000001,
      0x01d4ae_000008_000001_000073_000001_000000_01d4b6_000004_000001_000061_000001,
      0x01d4bb_00000b_000002_000066_000002_000000_01d4be_000003_000002_000069_000002,
      0x01d4c6_000005_000002_000071_000002_000000_01d4d0_00001a_000001_000061_000001,
      0x01d4ea_00001a_000001_000061_000001_000000_01d505_000003_000002_000062_000002,
      0x01d50d_000008_000001_00006a_000001_000000_01d516_000007_000001_000073_000001,
      0x01d51e_00001a_000001_000061_000001_000000_01d539_000003_000002_000062_000002,
      0x01d53c_000006_000002_000065_000002_000000_01d54a_000007_000001_000073_000001,
      0x01d552_00001a_000001_000061_000001_000000_01d56c_00001a_000001_000061_000001,
      0x01d586_00001a_000001_000061_000001_000000_01d5a0_00001a_000001_000061_000001,
      0x01d5ba_00001a_000001_000061_000001_000000_01d5d4_00001a_000001_000061_000001,
      0x01d5ee_00001a_000001_000061_000001_000000_01d608_00001a_000001_000061_000001,
      0x01d622_00001a_000001_000061_000001_000000_01d63c_00001a_000001_000061_000001,
      0x01d656_00001a_000001_000061_000001_000000_01d670_00001a_000001_000061_000001,
      0x01d68a_00001a_000001_000061_000001_000000_01d6a8_000011_000001_0003b1_000001,
      0x01d6ba_000007_000001_0003c3_000001_000000_01d6c2_000011_000001_0003b1_000001,
      0x01d6d4_000007_000001_0003c3_000001_000000_01d6e2_000011_000001_0003b1_000001,
      0x01d6f4_000007_000001_0003c3_000001_000000_01d6fc_000011_000001_0003b1_000001,
      0x01d70e_000007_000001_0003c3_000001_000000_01d71c_000011_000001_0003b1_000001,
      0x01d72e_000007_000001_0003c3_000001_000000_01d736_000011_000001_0003b1_000001,
      0x01d748_000007_000001_0003c3_000001_000000_01d756_000011_000001_0003b1_000001,
      0x01d768_000007_000001_0003c3_000001_000000_01d770_000011_000001_0003b1_000001,
      0x01d782_000007_000001_0003c3_000001_000000_01d790_000011_000001_0003b1_000001,
      0x01d7a2_000007_000001_0003c3_000001_000000_01d7aa_000011_000001_0003b1_000001,
      0x01d7bc_000007_000001_0003c3_000001_000000_01d7ce_00000a_000001_000030_000001,
      0x01d7d8_00000a_000001_000030_000001_000000_01d7e2_00000a_000001_000030_000001,
      0x01d7ec_00000a_000001_000030_000001_000000_01d7f6_00000a_000001_000030_000001,
      0x01e030_000009_000001_000430_000001_000000_01e039_000003_000001_00043a_000001,
      0x01e03c_00000b_000001_00043e_000001_000000_01e051_000009_000001_000430_000001,
      0x01e05d_000003_000001_00043f_000002_000000_01e060_000005_000001_000444_000001,
      0x01e900_000022_000001_01e922_000001_000000_01ee0a_000004_000001_000643_000001,
      0x01ee19_000003_000001_000636_000002_000000_01ee2a_000004_000001_000643_000001,
      0x01ee79_000003_000001_000636_000002_000000_01ee8b_000003_000001_000644_000001,
      0x01ee99_000003_000001_000636_000002_000000_01eeab_000003_000001_000644_000001,
      0x01eeb9_000003_000001_000636_000002_000000_01f130_00001a_000001_000061_000001,
      0x01fbf0_00000a_000001_000030_000001_000000_02f831_000003_000001_00537f]

/-- Characters that are replaced, each before its replacements. -/
def mappedWords : List (List Nat) :=
  Table.entries
    [0x0000a0_000020_000000_0000a8_000020_000308_000000_0000aa_000061_000000_0000af_000020_000304,
      0x0000b2_000032_000000_0000b3_000033_000000_0000b4_000020_000301_000000_0000b5_0003bc,
      0x0000b8_000020_000327_000000_0000b9_000031_000000_0000ba_00006f_000000_0000bc_000031_002044_000034,
      0x0000bd_000031_002044_000032_000000_0000be_000033_002044_000034_000000_000130_000069_000307,
      0x000132_000069_00006a_000000_000133_000069_00006a_000000_000134_000135_000000_000136_000137,
      0x00013f_00006c_0000b7_000000_000140_00006c_0000b7_000000_000149_0002bc_00006e_000000_000178_0000ff,
      0x00017f_000073_000000_000181_000253_000000_000182_000183_000000_000184_000185_000000_000186_000254,
      0x000187_000188_000000_000189_000256_000000_00018a_000257_000000_00018b_00018c_000000_00018e_0001dd,
      0x00018f_000259_000000_000190_00025b_000000_000191_000192_000000_000193_000260_000000_000194_000263,
      0x000196_000269_000000_000197_000268_000000_000198_000199_000000_00019c_00026f_000000_00019d_000272,
      0x00019f_000275_000000_0001a6_000280_000000_0001a7_0001a8_000000_0001a9_000283_000000_0001ac_0001ad,
      0x0001ae_000288_000000_0001af_0001b0_000000_0001b1_00028a_000000_0001b2_00028b_000000_0001b3_0001b4,
      0x0001b5_0001b6_000000_0001b7_000292_000000_0001b8_0001b9_000000_0001bc_0001bd,
      0x0001c4_000064_00017e_000000_0001c5_000064_00017e_000000_0001c6_000064_00017e,
      0x0001c7_00006c_00006a_000000_0001c8_00006c_00006a_000000_0001c9_00006c_00006a,
      0x0001ca_00006e_00006a_000000_0001cb_00006e_00006a_000000_0001cc_00006e_00006a,
      0x0001f1_000064_00007a_000000_0001f2_000064_00007a_000000_0001f3_000064_00007a_000000_0001f4_0001f5,
      0x0001f6_000195_000000_0001f7_0001bf_000000_000220_00019e_000000_00023a_002c65_000000_00023b_00023c,
      0x00023d_00019a_000000_00023e_002c66_000000_000241_000242_000000_000243_000180_000000_000244_000289,
      0x000245_00028c_000000_0002b0_000068_000000_0002b1_000266_000000_0002b2_00006a_000000_0002b3_000072,
      0x0002b4_000279_000000_0002b5_00027b_000000_0002b6_000281_000000_0002b7_000077_000000_0002b8_000079,
      0x0002d8_000020_000306_000000_0002d9_000020_000307_000000_0002da_000020_00030a,
      0x0002db_000020_000328_000000_0002dc_000020_000303_000000_0002dd_000020_00030b_000000_0002e0_000263,
      0x0002e1_00006c_000000_0002e2_000073_000000_0002e3_000078_000000_0002e4_000295_000000_000340_000300,
      0x000341_000301_000000_000343_000313_000000_000344_000308_000301_000000_000345_0003b9,
      0x000370_000371_000000_000372_000373_000000_000374_0002b9_000000_000376_000377,
      0x00037a_000020_0003b9_000000_00037e_00003b_000000_00037f_0003f3_000000_000384_000020_000301,
      0x000385_000020_000308_000301_000000_000386_0003ac_000000_000387_0000b7_000000_00038c_0003cc,
      0x00038e_0003cd_000000_00038f_0003ce_000000_0003cf_0003d7_000000_0003d0_0003b2_000000_0003d1_0003b8,
      0x0003d2_0003c5_000000_0003d3_0003cd_000000_0003d4_0003cb_000000_0003d5_0003c6_000000_0003d6_0003c0,
      0x0003f0_0003ba_000000_0003f1_0003c1_000000_0003f2_0003c3_000000_0003f4_0003b8_000000_0003f5_0003b5,
      0x0003f7_0003f8_000000_0003f9_0003c3_000000_0003fa_0003fb_000000_0004c0_0004cf_000000_000558_000567,
      0x000587_000565_000582_000000_00058b_00056b_000000_00058c_000575_000000_000675_000627_000674,
      0x000676_000648_000674_000000_000677_0006c7_000674_000000_000678_00064a_000674,
      0x000958_000915_00093c_000000_000959_000916_00093c_000000_00095a_000917_00093c,
      0x00095b_00091c_00093c_000000_00095c_000921_00093c_000000_00095d_000922_00093c,
      0x00095e_00092b_00093c_000000_00095f_00092f_00093c_000000_0009dc_0009a1_0009bc,
      0x0009dd_0009a2_0009bc_000000_0009df_0009af_0009bc_000000_000a33_000a32_000a3c,
      0x000a36_000a38_000a3c_000000_000a59_000a16_000a3c_000000_000a5a_000a17_000a3c,
      0x000a5b_000a1c_000a3c_000000_000a5e_000a2b_000a3c_000000_000b5c_000b21_000b3c,
      0x000b5d_000b22_000b3c_000000_000e33_000e4d_000e32_000000_000eb3_000ecd_000eb2,
      0x000edc_000eab_000e99_000000_000edd_000eab_000ea1_000000_000f0c_000f0b_000000_000f43_000f42_000fb7,
      0x000f4d_000f4c_000fb7_000000_000f52_000f51_000fb7_000000_000f57_000f56_000fb7,
      0x000f5c_000f5b_000fb7_000000_000f69_000f40_000fb5_000000_000f73_000f71_000f72,
      0x000f75_000f71_000f74_000000_000f76_000fb2_000f80_000000_000f77_000fb2_000f71_000f80,
      0x000f78_000fb3_000f80_000000_000f79_000fb3_000f71_000f80_000000_000f81_000f71_000f80,
      0x000f93_000f92_000fb7_000000_000f9d_000f9c_000fb7_000000_000fa2_000fa1_000fb7,
      0x000fa7_000fa6_000fb7_000000_000fac_000fab_000fb7_000000_000fb9_000f90_000fb5_000000_0010c7_002d27,
      0x0010cd_002d2d_000000_0010fc_0010dc_000000_001c80_000432_000000_001c81_000434_000000_001c82_00043e,
      0x001c83_000441_000000_001c84_000442_000000_001c85_000442_000000_001c86_00044a_000000_001c87_000463,
      0x001c88_00a64b_000000_001c89_001c8a_000000_001d2c_000061_000000_001d2d_0000e6_000000_001d2e_000062,
      0x001d30_000064_000000_001d32_0001dd_000000_001d3c_00006f_000000_001d3d_000223_000000_001d41_000075,
      0x001d42_000077_000000_001d43_000061_000000_001d44_000250_000000_001d45_000251_000000_001d46_001d02,
      0x001d47_000062_000000_001d48_000064_000000_001d49_000065_000000_001d4a_000259_000000_001d4b_00025b,
      0x001d4c_00025c_000000_001d4d_000067_000000_001d4f_00006b_000000_001d50_00006d_000000_001d51_00014b,
      0x001d52_00006f_000000_001d53_000254_000000_001d54_001d16_000000_001d55_001d17_000000_001d56_000070,
      0x001d57_000074_000000_001d58_000075_000000_001d59_001d1d_000000_001d5a_00026f_000000_001d5b_000076,
      0x001d5c_001d25_000000_001d60_0003c6_000000_001d61_0003c7_000000_001d62_000069_000000_001d63_000072,
      0x001d64_000075_000000_001d65_000076_000000_001d66_0003b2_000000_001d67_0003b3_000000_001d68_0003c1,
      0x001d69_0003c6_000000_001d6a_0003c7_000000_001d78_00043d_000000_001d9b_000252_000000_001d9c_000063,
      0x001d9d_000255_000000_001d9e_0000f0_000000_001d9f_00025c_000000_001da0_000066_000000_001da1_00025f,
      0x001da2_000261_000000_001da3_000265_000000_001da7_001d7b_000000_001da8_00029d_000000_001da9_00026d,
      0x001daa_001d85_000000_001dab_00029f_000000_001dac_000271_000000_001dad_000270_000000_001db2_000278,
      0x001db3_000282_000000_001db4_000283_000000_001db5_0001ab_000000_001db6_000289_000000_001db7_00028a,
      0x001db8_001d1c_000000_001db9_00028b_000000_001dba_00028c_000000_001dbb_00007a_000000_001dbf_0003b8,
      0x001e9a_000061_0002be_000000_001e9b_001e61_000000_001e9e_0000df_000000_001f80_001f00_0003b9,
      0x001f81_001f01_0003b9_000000_001f82_001f02_0003b9_000000_001f83_001f03_0003b9,
      0x001f84_001f04_0003b9_000000_001f85_001f05_0003b9_000000_001f86_001f06_0003b9,
      0x001f87_001f07_0003b9_000000_001f88_001f00_0003b9_000000_001f89_001f01_0003b9,
      0x001f8a_001f02_0003b9_000000_001f8b_001f03_0003b9_000000_001f8c_001f04_0003b9,
      0x001f8d_001f05_0003b9_000000_001f8e_001f06_0003b9_000000_001f8f_001f07_0003b9,
      0x001f90_001f20_0003b9_000000_001f91_001f21_0003b9_000000_001f92_001f22_0003b9,
      0x001f93_001f23_0003b9_000000_001f94_001f24_0003b9_000000_001f95_001f25_0003b9,
      0x001f96_001f26_0003b9_000000_001f97_001f27_0003b9_000000_001f98_001f20_0003b9,
      0x001f99_001f21_0003b9_000000_001f9a_001f22_0003b9_000000_001f9b_001f23_0003b9,
      0x001f9c_001f24_0003b9_000000_001f9d_001f25_0003b9_000000_001f9e_001f26_0003b9,
      0x001f9f_001f27_0003b9_000000_001fa0_001f60_0003b9_000000_001fa1_001f61_0003b9,
      0x001fa2_001f62_0003b9_000000_001fa3_001f63_0003b9_000000_001fa4_001f64_0003b9,
      0x001fa5_001f65_0003b9_000000_001fa6_001f66_0003b9_000000_001fa7_001f67_0003b9,
      0x001fa8_001f60_0003b9_000000_001fa9_001f61_0003b9_000000_001faa_001f62_0003b9,
      0x001fab_001f63_0003b9_000000_001fac_001f64_0003b9_000000_001fad_001f65_0003b9,
      0x001fae_001f66_0003b9_000000_001faf_001f67_0003b9_000000_001fb2_001f70_0003b9,
      0x001fb3_0003b1_0003b9_000000_001fb4_0003ac_0003b9_000000_001fb7_001fb6_0003b9_000000_001fb8_001fb0,
      0x001fb9_001fb1_000000_001fba_001f70_000000_001fbb_0003ac_000000_001fbc_0003b1_0003b9,
      0x001fbd_000020_000313_000000_001fbe_0003b9_000000_001fbf_000020_000313_000000_001fc0_000020_000342,
      0x001fc1_000020_000308_000342_000000_001fc2_001f74_0003b9_000000_001fc3_0003b7_0003b9,
      0x001fc4_0003ae_0003b9_000000_001fc7_001fc6_0003b9_000000_001fc8_001f72_000000_001fc9_0003ad,
      0x001fca_001f74_000000_001fcb_0003ae_000000_001fcc_0003b7_0003b9_000000_001fcd_000020_000313_000300,
      0x001fce_000020_000313_000301_000000_001fcf_000020_000313_000342_000000_001fd3_000390,
      0x001fd8_001fd0_000000_001fd9_001fd1_000000_001fda_001f76_000000_001fdb_0003af,
      0x001fdd_000020_000314_000300_000000_001fde_000020_000314_000301_000000_001fdf_000020_000314_000342,
      0x001fe3_0003b0_000000_001fe8_001fe0_000000_001fe9_001fe1_000000_001fea_001f7a_000000_001feb_0003cd,
      0x001fec_001fe5_000000_001fed_000020_000308_000300_000000_001fee_000020_000308_000301,
      0x001fef_000060_000000_001ff2_001f7c_0003b9_000000_001ff3_0003c9_0003b9_000000_001ff4_0003ce_0003b9,
      0x001ff7_001ff6_0003b9_000000_001ff8_001f78_000000_001ff9_0003cc_000000_001ffa_001f7c,
      0x001ffb_0003ce_000000_001ffc_0003c9_0003b9_000000_001ffd_000020_000301_000000_001ffe_000020_000314,
      0x002011_002010_000000_002017_000020_000333_000000_00202f_000020_000000_002033_002032_002032,
      0x002034_002032_002032_002032_000000_002036_002035_002035_000000_002037_002035_002035_002035,
      0x00203c_000021_000021_000000_00203e_000020_000305_000000_002047_00003f_00003f,
      0x002048_00003f_000021_000000_002049_000021_00003f_000000_002057_002032_002032_002032_002032,
      0x00205f_000020_000000_002070_000030_000000_002071_000069_000000_00207a_00002b_000000_00207b_002212,
      0x00207c_00003d_000000_00207d_000028_000000_00207e_000029_000000_00207f_00006e_000000_00208a_00002b,
      0x00208b_002212_000000_00208c_00003d_000000_00208d_000028_000000_00208e_000029_000000_002090_000061,
      0x002091_000065_000000_002092_00006f_000000_002093_000078_000000_002094_000259_000000_002095_000068,
      0x00209a_000070_000000_00209b_000073_000000_00209c_000074_000000_00209d_000077_000000_00209e_000079,
      0x00209f_00007a_000000_0020a8_000072_000073_000000_002100_000061_00002f_000063,
      0x002101_000061_00002f_000073_000000_002102_000063_000000_002103_0000b0_000063,
      0x002105_000063_00002f_00006f_000000_002106_000063_00002f_000075_000000_002107_00025b,
      0x002109_0000b0_000066_000000_00210b_000068_000000_00210c_000068_000000_00210e_000068,
      0x00210f_000127_000000_002111_000069_000000_002112_00006c_000000_002113_00006c,
      0x002116_00006e_00006f_000000_00211a_000071_000000_00211b_000072_000000_00211c_000072,
      0x002120_000073_00006d_000000_002121_000074_000065_00006c_000000_002122_000074_00006d,
      0x002124_00007a_000000_002126_0003c9_000000_002128_00007a_000000_00212a_00006b_000000_00212b_0000e5,
      0x00212c_000062_000000_00212d_000063_000000_00212f_000065_000000_002130_000065_000000_002131_000066,
      0x002132_00214e_000000_002133_00006d_000000_002134_00006f_000000_002139_000069,
      0x00213b_000066_000061_000078_000000_00213c_0003c0_000000_00213d_0003b3_000000_00213e_0003b3,
      0x00213f_0003c0_000000_002140_002211_000000_002145_000064_000000_002146_000064_000000_002147_000065,
      0x002148_000069_000000_002149_00006a_000000_002150_000031_002044_000037,
      0x002151_000031_002044_000039_000000_002152_000031_002044_000031_000030,
      0x002153_000031_002044_000033_000000_002154_000032_002044_000033_000000_002155_000031_002044_000035,
      0x002156_000032_002044_000035_000000_002157_000033_002044_000035_000000_002158_000034_002044_000035,
      0x002159_000031_002044_000036_000000_00215a_000035_002044_000036_000000_00215b_000031_002044_000038,
      0x00215c_000033_002044_000038_000000_00215d_000035_002044_000038_000000_00215e_000037_002044_000038,
      0x00215f_000031_002044_000000_002160_000069_000000_002161_000069_000069,
      0x002162_000069_000069_000069_000000_002163_000069_000076_000000_002164_000076,
      0x002165_000076_000069_000000_002166_000076_000069_000069_000000_002167_000076_000069_000069_000069,
      0x002168_000069_000078_000000_002169_000078_000000_00216a_000078_000069,
      0x00216b_000078_000069_000069_000000_00216c_00006c_000000_00216d_000063_000000_00216e_000064,
      0x00216f_00006d_000000_002170_000069_000000_002171_000069_000069_000000_002172_000069_000069_000069,
      0x002173_000069_000076_000000_002174_000076_000000_002175_000076_000069,
      0x002176_000076_000069_000069_000000_002177_000076_000069_000069_000069_000000_002178_000069_000078,
      0x002179_000078_000000_00217a_000078_000069_000000_00217b_000078_000069_000069_000000_00217c_00006c,
      0x00217d_000063_000000_00217e_000064_000000_00217f_00006d_000000_002183_002184,
      0x002189_000030_002044_000033_000000_00222c_00222b_00222b_000000_00222d_00222b_00222b_00222b,
      0x00222f_00222e_00222e_000000_002230_00222e_00222e_00222e_000000_002329_003008_000000_00232a_003009,
      0x002469_000031_000030_000000_00246a_000031_000031_000000_00246b_000031_000032,
      0x00246c_000031_000033_000000_00246d_000031_000034_000000_00246e_000031_000035,
      0x00246f_000031_000036_000000_002470_000031_000037_000000_002471_000031_000038,
      0x002472_000031_000039_000000_002473_000032_000030_000000_002474_000028_000031_000029,
      0x002475_000028_000032_000029_000000_002476_000028_000033_000029_000000_002477_000028_000034_000029,
      0x002478_000028_000035_000029_000000_002479_000028_000036_000029_000000_00247a_000028_000037_000029,
      0x00247b_000028_000038_000029_000000_00247c_000028_000039_000029,
      0x00247d_000028_000031_000030_000029_000000_00247e_000028_000031_000031_000029,
      0x00247f_000028_000031_000032_000029_000000_002480_000028_000031_000033_000029,
      0x002481_000028_000031_000034_000029_000000_002482_000028_000031_000035_000029,
      0x002483_000028_000031_000036_000029_000000_002484_000028_000031_000037_000029,
      0x002485_000028_000031_000038_000029_000000_002486_000028_000031_000039_000029,
      0x002487_000028_000032_000030_000029_000000_00249c_000028_000061_000029,
      0x00249d_000028_000062_000029_000000_00249e_000028_000063_000029_000000_00249f_000028_000064_000029,
      0x0024a0_000028_000065_000029_000000_0024a1_000028_000066_000029_000000_0024a2_000028_000067_000029,
      0x0024a3_000028_000068_000029_000000_0024a4_000028_000069_000029_000000_0024a5_000028_00006a_000029,
      0x0024a6_000028_00006b_000029_000000_0024a7_000028_00006c_000029_000000_0024a8_000028_00006d_000029,
      0x0024a9_000028_00006e_000029_000000_0024aa_000028_00006f_000029_000000_0024ab_000028_000070_000029,
      0x0024ac_000028_000071_000029_000000_0024ad_000028_000072_000029_000000_0024ae_000028_000073_000029,
      0x0024af_000028_000074_000029_000000_0024b0_000028_000075_000029_000000_0024b1_000028_000076_000029,
      0x0024b2_000028_000077_000029_000000_0024b3_000028_000078_000029_000000_0024b4_000028_000079_000029,
      0x0024b5_000028_00007a_000029_000000_0024ea_000030_000000_002a0c_00222b_00222b_00222b_00222b,
      0x002a74_00003a_00003a_00003d_000000_002a75_00003d_00003d_000000_002a76_00003d_00003d_00003d,
      0x002adc_002add_000338_000000_002c60_002c61_000000_002c62_00026b_000000_002c63_001d7d,
      0x002c64_00027d_000000_002c6d_000251_000000_002c6e_000271_000000_002c6f_000250_000000_002c70_000252,
      0x002c72_002c73_000000_002c75_002c76_000000_002c7c_00006a_000000_002c7d_000076_000000_002c7e_00023f,
      0x002c7f_000240_000000_002ceb_002cec_000000_002ced_002cee_000000_002cf2_002cf3_000000_002d6f_002d61,
      0x002e9f_006bcd_000000_002ef3_009f9f_000000_002f00_004e00_000000_002f01_004e28_000000_002f02_004e36,
      0x002f03_004e3f_000000_002f04_004e59_000000_002f05_004e85_000000_002f06_004e8c_000000_002f07_004ea0,
      0x002f08_004eba_000000_002f09_00513f_000000_002f0a_005165_000000_002f0b_00516b_000000_002f0c_005182,
      0x002f0d_005196_000000_002f0e_0051ab_000000_002f0f_0051e0_000000_002f10_0051f5_000000_002f11_005200,
      0x002f12_00529b_000000_002f13_0052f9_000000_002f14_005315_000000_002f15_00531a_000000_002f16_005338,
      0x002f17_005341_000000_002f18_00535c_000000_002f19_005369_000000_002f1a_005382_000000_002f1b_0053b6,
      0x002f1c_0053c8_000000_002f1d_0053e3_000000_002f1e_0056d7_000000_002f1f_00571f_000000_002f20_0058eb,
      0x002f21_005902_000000_002f22_00590a_000000_002f23_005915_000000_002f24_005927_000000_002f25_005973,
      0x002f26_005b50_000000_002f27_005b80_000000_002f28_005bf8_000000_002f29_005c0f_000000_002f2a_005c22,
      0x002f2b_005c38_000000_002f2c_005c6e_000000_002f2d_005c71_000000_002f2e_005ddb_000000_002f2f_005de5,
      0x002f30_005df1_000000_002f31_005dfe_000000_002f32_005e72_000000_002f33_005e7a_000000_002f34_005e7f,
      0x002f35_005ef4_000000_002f36_005efe_000000_002f37_005f0b_000000_002f38_005f13_000000_002f39_005f50,
      0x002f3a_005f61_000000_002f3b_005f73_000000_002f3c_005fc3_000000_002f3d_006208_000000_002f3e_006236,
      0x002f3f_00624b_000000_002f40_00652f_000000_002f41_006534_000000_002f42_006587_000000_002f43_006597,
      0x002f44_0065a4_000000_002f45_0065b9_000000_002f46_0065e0_000000_002f47_0065e5_000000_002f48_0066f0,
      0x002f49_006708_000000_002f4a_006728_000000_002f4b_006b20_000000_002f4c_006b62_000000_002f4d_006b79,
      0x002f4e_006bb3_000000_002f4f_006bcb_000000_002f50_006bd4_000000_002f51_006bdb_000000_002f52_006c0f,
      0x002f53_006c14_000000_002f54_006c34_000000_002f55_00706b_000000_002f56_00722a_000000_002f57_007236,
      0x002f58_00723b_000000_002f59_00723f_000000_002f5a_007247_000000_002f5b_007259_000000_002f5c_00725b,
      0x002f5d_0072ac_000000_002f5e_007384_000000_002f5f_007389_000000_002f60_0074dc_000000_002f61_0074e6,
      0x002f62_007518_000000_002f63_00751f_000000_002f64_007528_000000_002f65_007530_000000_002f66_00758b,
      0x002f67_007592_000000_002f68_007676_000000_002f69_00767d_000000_002f6a_0076ae_000000_002f6b_0076bf,
      0x002f6c_0076ee_000000_002f6d_0077db_000000_002f6e_0077e2_000000_002f6f_0077f3_000000_002f70_00793a,
      0x002f71_0079b8_000000_002f72_0079be_000000_002f73_007a74_000000_002f74_007acb_000000_002f75_007af9,
      0x002f76_007c73_000000_002f77_007cf8_000000_002f78_007f36_000000_002f79_007f51_000000_002f7a_007f8a,
      0x002f7b_007fbd_000000_002f7c_008001_000000_002f7d_00800c_000000_002f7e_008012_000000_002f7f_008033,
      0x002f80_00807f_000000_002f81_008089_000000_002f82_0081e3_000000_002f83_0081ea_000000_002f84_0081f3,
      0x002f85_0081fc_000000_002f86_00820c_000000_002f87_00821b_000000_002f88_00821f_000000_002f89_00826e,
      0x002f8a_008272_000000_002f8b_008278_000000_002f8c_00864d_000000_002f8d_00866b_000000_002f8e_008840,
      0x002f8f_00884c_000000_002f90_008863_000000_002f91_00897e_000000_002f92_00898b_000000_002f93_0089d2,
      0x002f94_008a00_000000_002f95_008c37_000000_002f96_008c46_000000_002f97_008c55_000000_002f98_008c78,
      0x002f99_008c9d_000000_002f9a_008d64_000000_002f9b_008d70_000000_002f9c_008db3_000000_002f9d_008eab,
      0x002f9e_008eca_000000_002f9f_008f9b_000000_002fa0_008fb0_000000_002fa1_008fb5_000000_002fa2_009091,
      0x002fa3_009149_000000_002fa4_0091c6_000000_002fa5_0091cc_000000_002fa6_0091d1_000000_002fa7_009577,
      0x002fa8_009580_000000_002fa9_00961c_000000_002faa_0096b6_000000_002fab_0096b9_000000_002fac_0096e8,
      0x002fad_009751_000000_002fae_00975e_000000_002faf_009762_000000_002fb0_009769_000000_002fb1_0097cb,
      0x002fb2_0097ed_000000_002fb3_0097f3_000000_002fb4_009801_000000_002fb5_0098a8_000000_002fb6_0098db,
      0x002fb7_0098df_000000_002fb8_009996_000000_002fb9_009999_000000_002fba_0099ac_000000_002fbb_009aa8,
      0x002fbc_009ad8_000000_002fbd_009adf_000000_002fbe_009b25_000000_002fbf_009b2f_000000_002fc0_009b32,
      0x002fc1_009b3c_000000_002fc2_009b5a_000000_002fc3_009ce5_000000_002fc4_009e75_000000_002fc5_009e7f,
      0x002fc6_009ea5_000000_002fc7_009ebb_000000_002fc8_009ec3_000000_002fc9_009ecd_000000_002fca_009ed1,
      0x002fcb_009ef9_000000_002fcc_009efd_000000_002fcd_009f0e_000000_002fce_009f13_000000_002fcf_009f20,
      0x002fd0_009f3b_000000_002fd1_009f4a_000000_002fd2_009f52_000000_002fd3_009f8d_000000_002fd4_009f9c,
      0x002fd5_009fa0_000000_003000_000020_000000_003002_00002e_000000_003036_003012_000000_003038_005341,
      0x003039_005344_000000_00303a_005345_000000_00309b_000020_003099_000000_00309c_000020_00309a,
      0x00309f_003088_00308a_000000_0030ff_0030b3_0030c8_000000_003131_001100_000000_003132_001101,
      0x003133_0011aa_000000_003134_001102_000000_003135_0011ac_000000_003136_0011ad_000000_003140_00111a,
      0x003144_001121_000000_003165_001114_000000_003166_001115_000000_003167_0011c7_000000_003168_0011c8,
      0x003169_0011cc_000000_00316a_0011ce_000000_00316b_0011d3_000000_00316c_0011d7_000000_00316d_0011d9,
      0x00316e_00111c_000000_00316f_0011dd_000000_003170_0011df_000000_003171_00111d_000000_003175_001123,
      0x00317d_001132_000000_00317e_001136_000000_00317f_001140_000000_003180_001147_000000_003181_00114c,
      0x003182_0011f1_000000_003183_0011f2_000000_003187_001184_000000_003188_001185_000000_003189_001188,
      0x00318a_001191_000000_00318b_001192_000000_00318c_001194_000000_00318d_00119e_000000_00318e_0011a1,
      0x003192_004e00_000000_003193_004e8c_000000_003195_0056db_000000_003197_004e2d_000000_003199_007532,
      0x00319a_004e59_000000_00319b_004e19_000000_00319c_004e01_000000_00319d_005929_000000_00319e_005730,
      0x00319f_004eba_000000_003200_000028_001100_000029_000000_003201_000028_001102_000029,
      0x003202_000028_001103_000029_000000_003203_000028_001105_000029_000000_003204_000028_001106_000029,
      0x003205_000028_001107_000029_000000_003206_000028_001109_000029_000000_003207_000028_00110b_000029,
      0x003208_000028_00110c_000029_000000_003209_000028_00110e_000029_000000_00320a_000028_00110f_000029,
      0x00320b_000028_001110_000029_000000_00320c_000028_001111_000029_000000_00320d_000028_001112_000029,
      0x00320e_000028_00ac00_000029_000000_00320f_000028_00b098_000029_000000_003210_000028_00b2e4_000029,
      0x003211_000028_00b77c_000029_000000_003212_000028_00b9c8_000029_000000_003213_000028_00bc14_000029,
      0x003214_000028_00c0ac_000029_000000_003215_000028_00c544_000029_000000_003216_000028_00c790_000029,
      0x003217_000028_00cc28_000029_000000_003218_000028_00ce74_000029_000000_003219_000028_00d0c0_000029,
      0x00321a_000028_00d30c_000029_000000_00321b_000028_00d558_000029_000000_00321c_000028_00c8fc_000029,
      0x00321d_000028_00c624_00c804_000029_000000_00321e_000028_00c624_00d6c4_000029,
      0x003220_000028_004e00_000029_000000_003221_000028_004e8c_000029_000000_003222_000028_004e09_000029,
      0x003223_000028_0056db_000029_000000_003224_000028_004e94_000029_000000_003225_000028_00516d_000029,
      0x003226_000028_004e03_000029_000000_003227_000028_00516b_000029_000000_003228_000028_004e5d_000029,
      0x003229_000028_005341_000029_000000_00322a_000028_006708_000029_000000_00322b_000028_00706b_000029,
      0x00322c_000028_006c34_000029_000000_00322d_000028_006728_000029_000000_00322e_000028_0091d1_000029,
      0x00322f_000028_00571f_000029_000000_003230_000028_0065e5_000029_000000_003231_000028_00682a_000029,
      0x003232_000028_006709_000029_000000_003233_000028_00793e_000029_000000_003234_000028_00540d_000029,
      0x003235_000028_007279_000029_000000_003236_000028_008ca1_000029_000000_003237_000028_00795d_000029,
      0x003238_000028_0052b4_000029_000000_003239_000028_004ee3_000029_000000_00323a_000028_00547c_000029,
      0x00323b_000028_005b66_000029_000000_00323c_000028_0076e3_000029_000000_00323d_000028_004f01_000029,
      0x00323e_000028_008cc7_000029_000000_00323f_000028_005354_000029_000000_003240_000028_00796d_000029,
      0x003241_000028_004f11_000029_000000_003242_000028_0081ea_000029_000000_003243_000028_0081f3_000029,
      0x003244_00554f_000000_003245_005e7c_000000_003246_006587_000000_003247_007b8f,
      0x003250_000070_000074_000065_000000_003251_000032_000031_000000_003252_000032_000032,
      0x003253_000032_000033_000000_003254_000032_000034_000000_003255_000032_000035,
      0x003256_000032_000036_000000_003257_000032_000037_000000_003258_000032_000038,
      0x003259_000032_000039_000000_00325a_000033_000030_000000_00325b_000033_000031,
      0x00325c_000033_000032_000000_00325d_000033_000033_000000_00325e_000033_000034,
      0x00325f_000033_000035_000000_003260_001100_000000_003261_001102_000000_003262_001103,
      0x003266_001109_000000_003267_00110b_000000_003268_00110c_000000_00326e_00ac00_000000_00326f_00b098,
      0x003270_00b2e4_000000_003271_00b77c_000000_003272_00b9c8_000000_003273_00bc14_000000_003274_00c0ac,
      0x003275_00c544_000000_003276_00c790_000000_003277_00cc28_000000_003278_00ce74_000000_003279_00d0c0,
      0x00327a_00d30c_000000_00327b_00d558_000000_00327c_00cc38_00ace0_000000_00327d_00c8fc_00c758,
      0x00327e_00c6b0_000000_003280_004e00_000000_003281_004e8c_000000_003282_004e09_000000_003283_0056db,
      0x003284_004e94_000000_003285_00516d_000000_003286_004e03_000000_003287_00516b_000000_003288_004e5d,
      0x003289_005341_000000_00328a_006708_000000_00328b_00706b_000000_00328c_006c34_000000_00328d_006728,
      0x00328e_0091d1_000000_00328f_00571f_000000_003290_0065e5_000000_003291_00682a_000000_003292_006709,
      0x003293_00793e_000000_003294_00540d_000000_003295_007279_000000_003296_008ca1_000000_003297_00795d,
      0x003298_0052b4_000000_003299_0079d8_000000_00329a_007537_000000_00329b_005973_000000_00329c_009069,
      0x00329d_00512a_000000_00329e_005370_000000_00329f_006ce8_000000_0032a0_009805_000000_0032a1_004f11,
      0x0032a2_005199_000000_0032a3_006b63_000000_0032a4_004e0a_000000_0032a5_004e2d_000000_0032a6_004e0b,
      0x0032a7_005de6_000000_0032a8_0053f3_000000_0032a9_00533b_000000_0032aa_005b97_000000_0032ab_005b66,
      0x0032ac_0076e3_000000_0032ad_004f01_000000_0032ae_008cc7_000000_0032af_005354_000000_0032b0_00591c,
      0x0032b1_000033_000036_000000_0032b2_000033_000037_000000_0032b3_000033_000038,
      0x0032b4_000033_000039_000000_0032b5_000034_000030_000000_0032b6_000034_000031,
      0x0032b7_000034_000032_000000_0032b8_000034_000033_000000_0032b9_000034_000034,
      0x0032ba_000034_000035_000000_0032bb_000034_000036_000000_0032bc_000034_000037,
      0x0032bd_000034_000038_000000_0032be_000034_000039_000000_0032bf_000035_000030,
      0x0032c0_000031_006708_000000_0032c1_000032_006708_000000_0032c2_000033_006708,
      0x0032c3_000034_006708_000000_0032c4_000035_006708_000000_0032c5_000036_006708,
      0x0032c6_000037_006708_000000_0032c7_000038_006708_000000_0032c8_000039_006708,
      0x0032c9_000031_000030_006708_000000_0032ca_000031_000031_006708_000000_0032cb_000031_000032_006708,
      0x0032cc_000068_000067_000000_0032cd_000065_000072_000067_000000_0032ce_000065_000076,
      0x0032cf_00006c_000074_000064_000000_0032ea_0030d2_000000_0032eb_0030d5_000000_0032ec_0030d8,
      0x0032ed_0030db_000000_0032ff_004ee4_00548c_000000_003300_0030a2_0030d1_0030fc_0030c8,
      0x003301_0030a2_0030eb_0030d5_0030a1_000000_003302_0030a2_0030f3_0030da_0030a2,
      0x003303_0030a2_0030fc_0030eb_000000_003304_0030a4_0030cb_0030f3_0030b0,
      0x003305_0030a4_0030f3_0030c1_000000_003306_0030a6_0030a9_0030f3,
      0x003307_0030a8_0030b9_0030af_0030fc_0030c9_000000_003308_0030a8_0030fc_0030ab_0030fc,
      0x003309_0030aa_0030f3_0030b9_000000_00330a_0030aa_0030fc_0030e0_000000_00330b_0030ab_0030a4_0030ea,
      0x00330c_0030ab_0030e9_0030c3_0030c8_000000_00330d_0030ab_0030ed_0030ea_0030fc,
      0x00330e_0030ac_0030ed_0030f3_000000_00330f_0030ac_0030f3_0030de_000000_003310_0030ae_0030ac,
      0x003311_0030ae_0030cb_0030fc_000000_003312_0030ad_0030e5_0030ea_0030fc,
      0x003313_0030ae_0030eb_0030c0_0030fc_000000_003314_0030ad_0030ed,
      0x003315_0030ad_0030ed_0030b0_0030e9_0030e0_000000_003316_0030ad_0030ed_0030e1_0030fc_0030c8_0030eb,
      0x003317_0030ad_0030ed_0030ef_0030c3_0030c8_000000_003318_0030b0_0030e9_0030e0,
      0x003319_0030b0_0030e9_0030e0_0030c8_0030f3_000000_00331a_0030af_0030eb_0030bc_0030a4_0030ed,
      0x00331b_0030af_0030ed_0030fc_0030cd_000000_00331c_0030b1_0030fc_0030b9,
      0x00331d_0030b3_0030eb_0030ca_000000_00331e_0030b3_0030fc_0030dd,
      0x00331f_0030b5_0030a4_0030af_0030eb_000000_003320_0030b5_0030f3_0030c1_0030fc_0030e0,
      0x003321_0030b7_0030ea_0030f3_0030b0_000000_003322_0030bb_0030f3_0030c1,
      0x003323_0030bb_0030f3_0030c8_000000_003324_0030c0_0030fc_0030b9_000000_003325_0030c7_0030b7,
      0x003326_0030c9_0030eb_000000_003327_0030c8_0030f3_000000_003328_0030ca_0030ce,
      0x003329_0030ce_0030c3_0030c8_000000_00332a_0030cf_0030a4_0030c4,
      0x00332b_0030d1_0030fc_0030bb_0030f3_0030c8_000000_00332c_0030d1_0030fc_0030c4,
      0x00332d_0030d0_0030fc_0030ec_0030eb_000000_00332e_0030d4_0030a2_0030b9_0030c8_0030eb,
      0x00332f_0030d4_0030af_0030eb_000000_003330_0030d4_0030b3_000000_003331_0030d3_0030eb,
      0x003332_0030d5_0030a1_0030e9_0030c3_0030c9_000000_003333_0030d5_0030a3_0030fc_0030c8,
      0x003334_0030d6_0030c3_0030b7_0030a7_0030eb_000000_003335_0030d5_0030e9_0030f3,
      0x003336_0030d8_0030af_0030bf_0030fc_0030eb_000000_003337_0030da_0030bd,
      0x003338_0030da_0030cb_0030d2_000000_003339_0030d8_0030eb_0030c4_000000_00333a_0030da_0030f3_0030b9,
      0x00333b_0030da_0030fc_0030b8_000000_00333c_0030d9_0030fc_0030bf,
      0x00333d_0030dd_0030a4_0030f3_0030c8_000000_00333e_0030dc_0030eb_0030c8_000000_00333f_0030db_0030f3,
      0x003340_0030dd_0030f3_0030c9_000000_003341_0030db_0030fc_0030eb_000000_003342_0030db_0030fc_0030f3,
      0x003343_0030de_0030a4_0030af_0030ed_000000_003344_0030de_0030a4_0030eb,
      0x003345_0030de_0030c3_0030cf_000000_003346_0030de_0030eb_0030af,
      0x003347_0030de_0030f3_0030b7_0030e7_0030f3_000000_003348_0030df_0030af_0030ed_0030f3,
      0x003349_0030df_0030ea_000000_00334a_0030df_0030ea_0030d0_0030fc_0030eb_000000_00334b_0030e1_0030ac,
      0x00334c_0030e1_0030ac_0030c8_0030f3_000000_00334d_0030e1_0030fc_0030c8_0030eb,
      0x00334e_0030e4_0030fc_0030c9_000000_00334f_0030e4_0030fc_0030eb_000000_003350_0030e6_0030a2_0030f3,
      0x003351_0030ea_0030c3_0030c8_0030eb_000000_003352_0030ea_0030e9_000000_003353_0030eb_0030d4_0030fc,
      0x003354_0030eb_0030fc_0030d6_0030eb_000000_003355_0030ec_0030e0,
      0x003356_0030ec_0030f3_0030c8_0030b2_0030f3_000000_003357_0030ef_0030c3_0030c8,
      0x003358_000030_0070b9_000000_003359_000031_0070b9_000000_00335a_000032_0070b9,
      0x00335b_000033_0070b9_000000_00335c_000034_0070b9_000000_00335d_000035_0070b9,
      0x00335e_000036_0070b9_000000_00335f_000037_0070b9_000000_003360_000038_0070b9,
      0x003361_000039_0070b9_000000_003362_000031_000030_0070b9_000000_003363_000031_000031_0070b9,
      0x003364_000031_000032_0070b9_000000_003365_000031_000033_0070b9_000000_003366_000031_000034_0070b9,
      0x003367_000031_000035_0070b9_000000_003368_000031_000036_0070b9_000000_003369_000031_000037_0070b9,
      0x00336a_000031_000038_0070b9_000000_00336b_000031_000039_0070b9_000000_00336c_000032_000030_0070b9,
      0x00336d_000032_000031_0070b9_000000_00336e_000032_000032_0070b9_000000_00336f_000032_000033_0070b9,
      0x003370_000032_000034_0070b9_000000_003371_000068_000070_000061_000000_003372_000064_000061,
      0x003373_000061_000075_000000_003374_000062_000061_000072_000000_003375_00006f_000076,
      0x003376_000070_000063_000000_003377_000064_00006d_000000_003378_000064_00006d_000032,
      0x003379_000064_00006d_000033_000000_00337a_000069_000075_000000_00337b_005e73_006210,
      0x00337c_00662d_00548c_000000_00337d_005927_006b63_000000_00337e_00660e_006cbb,
      0x00337f_00682a_005f0f_004f1a_00793e_000000_003380_000070_000061_000000_003381_00006e_000061,
      0x003382_0003bc_000061_000000_003383_00006d_000061_000000_003384_00006b_000061,
      0x003385_00006b_000062_000000_003386_00006d_000062_000000_003387_000067_000062,
      0x003388_000063_000061_00006c_000000_003389_00006b_000063_000061_00006c_000000_00338a_000070_000066,
      0x00338b_00006e_000066_000000_00338c_0003bc_000066_000000_00338d_0003bc_000067,
      0x00338e_00006d_000067_000000_00338f_00006b_000067_000000_003390_000068_00007a,
      0x003391_00006b_000068_00007a_000000_003392_00006d_000068_00007a_000000_003393_000067_000068_00007a,
      0x003394_000074_000068_00007a_000000_003395_0003bc_00006c_000000_003396_00006d_00006c,
      0x003397_000064_00006c_000000_003398_00006b_00006c_000000_003399_000066_00006d,
      0x00339a_00006e_00006d_000000_00339b_0003bc_00006d_000000_00339c_00006d_00006d,
      0x00339d_000063_00006d_000000_00339e_00006b_00006d_000000_00339f_00006d_00006d_000032,
      0x0033a0_000063_00006d_000032_000000_0033a1_00006d_000032_000000_0033a2_00006b_00006d_000032,
      0x0033a3_00006d_00006d_000033_000000_0033a4_000063_00006d_000033_000000_0033a5_00006d_000033,
      0x0033a6_00006b_00006d_000033_000000_0033a7_00006d_002215_000073,
      0x0033a8_00006d_002215_000073_000032_000000_0033a9_000070_000061_000000_0033aa_00006b_000070_000061,
      0x0033ab_00006d_000070_000061_000000_0033ac_000067_000070_000061_000000_0033ad_000072_000061_000064,
      0x0033ae_000072_000061_000064_002215_000073_000000_0033af_000072_000061_000064_002215_000073_000032,
      0x0033b0_000070_000073_000000_0033b1_00006e_000073_000000_0033b2_0003bc_000073,
      0x0033b3_00006d_000073_000000_0033b4_000070_000076_000000_0033b5_00006e_000076,
      0x0033b6_0003bc_000076_000000_0033b7_00006d_000076_000000_0033b8_00006b_000076,
      0x0033b9_00006d_000076_000000_0033ba_000070_000077_000000_0033bb_00006e_000077,
      0x0033bc_0003bc_000077_000000_0033bd_00006d_000077_000000_0033be_00006b_000077,
      0x0033bf_00006d_000077_000000_0033c0_00006b_0003c9_000000_0033c1_00006d_0003c9,
      0x0033c3_000062_000071_000000_0033c4_000063_000063_000000_0033c5_000063_000064,
      0x0033c6_000063_002215_00006b_000067_000000_0033c8_000064_000062_000000_0033c9_000067_000079,
      0x0033ca_000068_000061_000000_0033cb_000068_000070_000000_0033cc_000069_00006e,
      0x0033cd_00006b_00006b_000000_0033ce_00006b_00006d_000000_0033cf_00006b_000074,
      0x0033d0_00006c_00006d_000000_0033d1_00006c_00006e_000000_0033d2_00006c_00006f_000067,
      0x0033d3_00006c_000078_000000_0033d4_00006d_000062_000000_0033d5_00006d_000069_00006c,
      0x0033d6_00006d_00006f_00006c_000000_0033d7_000070_000068_000000_0033d9_000070_000070_00006d,
      0x0033da_000070_000072_000000_0033db_000073_000072_000000_0033dc_000073_000076,
      0x0033dd_000077_000062_000000_0033de_000076_002215_00006d_000000_0033df_000061_002215_00006d,
      0x0033e0_000031_0065e5_000000_0033e1_000032_0065e5_000000_0033e2_000033_0065e5,
      0x0033e3_000034_0065e5_000000_0033e4_000035_0065e5_000000_0033e5_000036_0065e5,
      0x0033e6_000037_0065e5_000000_0033e7_000038_0065e5_000000_0033e8_000039_0065e5,
      0x0033e9_000031_000030_0065e5_000000_0033ea_000031_000031_0065e5_000000_0033eb_000031_000032_0065e5,
      0x0033ec_000031_000033_0065e5_000000_0033ed_000031_000034_0065e5_000000_0033ee_000031_000035_0065e5,
      0x0033ef_000031_000036_0065e5_000000_0033f0_000031_000037_0065e5_000000_0033f1_000031_000038_0065e5,
      0x0033f2_000031_000039_0065e5_000000_0033f3_000032_000030_0065e5_000000_0033f4_000032_000031_0065e5,
      0x0033f5_000032_000032_0065e5_000000_0033f6_000032_000033_0065e5_000000_0033f7_000032_000034_0065e5,
      0x0033f8_000032_000035_0065e5_000000_0033f9_000032_000036_0065e5_000000_0033fa_000032_000037_0065e5,
      0x0033fb_000032_000038_0065e5_000000_0033fc_000032_000039_0065e5_000000_0033fd_000033_000030_0065e5,
      0x0033fe_000033_000031_0065e5_000000_0033ff_000067_000061_00006c_000000_00a69c_00044a,
      0x00a69d_00044c_000000_00a770_00a76f_000000_00a779_00a77a_000000_00a77b_00a77c_000000_00a77d_001d79,
      0x00a78b_00a78c_000000_00a78d_000265_000000_00a790_00a791_000000_00a792_00a793_000000_00a7aa_000266,
      0x00a7ab_00025c_000000_00a7ac_000261_000000_00a7ad_00026c_000000_00a7ae_00026a_000000_00a7b0_00029e,
      0x00a7b1_000287_000000_00a7b2_00029d_000000_00a7b3_00ab53_000000_00a7c4_00a794_000000_00a7c5_000282,
      0x00a7c6_001d8e_000000_00a7c7_00a7c8_000000_00a7c9_00a7ca_000000_00a7cb_000264_000000_00a7dc_00019b,
      0x00a7dd_000277_000000_00a7e2_00027c_000000_00a7f1_000073_000000_00a7f2_000063_000000_00a7f3_000066,
      0x00a7f4_000071_000000_00a7f5_00a7f6_000000_00a7f8_000127_000000_00a7f9_000153_000000_00ab5c_00a727,
      0x00ab5d_00ab37_000000_00ab5e_00026b_000000_00ab5f_00ab52_000000_00ab69_00028d_000000_00ab6c_00ab4b,
      0x00f900_008c48_000000_00f901_0066f4_000000_00f902_008eca_000000_00f903_008cc8_000000_00f904_006ed1,
      0x00f905_004e32_000000_00f906_0053e5_000000_00f907_009f9c_000000_00f908_009f9c_000000_00f909_005951,
      0x00f90a_0091d1_000000_00f90b_005587_000000_00f90c_005948_000000_00f90d_0061f6_000000_00f90e_007669,
      0x00f90f_007f85_000000_00f910_00863f_000000_00f911_0087ba_000000_00f912_0088f8_000000_00f913_00908f,
      0x00f914_006a02_000000_00f915_006d1b_000000_00f916_0070d9_000000_00f917_0073de_000000_00f918_00843d,
      0x00f919_00916a_000000_00f91a_0099f1_000000_00f91b_004e82_000000_00f91c_005375_000000_00f91d_006b04,
      0x00f91e_00721b_000000_00f91f_00862d_000000_00f920_009e1e_000000_00f921_005d50_000000_00f922_006feb,
      0x00f923_0085cd_000000_00f924_008964_000000_00f925_0062c9_000000_00f926_0081d8_000000_00f927_00881f,
      0x00f928_005eca_000000_00f929_006717_000000_00f92a_006d6a_000000_00f92b_0072fc_000000_00f92c_0090ce,
      0x00f92d_004f86_000000_00f92e_0051b7_000000_00f92f_0052de_000000_00f930_0064c4_000000_00f931_006ad3,
      0x00f932_007210_000000_00f933_0076e7_000000_00f934_008001_000000_00f935_008606_000000_00f936_00865c,
      0x00f937_008def_000000_00f938_009732_000000_00f939_009b6f_000000_00f93a_009dfa_000000_00f93b_00788c,
      0x00f93c_00797f_000000_00f93d_007da0_000000_00f93e_0083c9_000000_00f93f_009304_000000_00f940_009e7f,
      0x00f941_008ad6_000000_00f942_0058df_000000_00f943_005f04_000000_00f944_007c60_000000_00f945_00807e,
      0x00f946_007262_000000_00f947_0078ca_000000_00f948_008cc2_000000_00f949_0096f7_000000_00f94a_0058d8,
      0x00f94b_005c62_000000_00f94c_006a13_000000_00f94d_006dda_000000_00f94e_006f0f_000000_00f94f_007d2f,
      0x00f950_007e37_000000_00f951_00964b_000000_00f952_0052d2_000000_00f953_00808b_000000_00f954_0051dc,
      0x00f955_0051cc_000000_00f956_007a1c_000000_00f957_007dbe_000000_00f958_0083f1_000000_00f959_009675,
      0x00f95a_008b80_000000_00f95b_0062cf_000000_00f95c_006a02_000000_00f95d_008afe_000000_00f95e_004e39,
      0x00f95f_005be7_000000_00f960_006012_000000_00f961_007387_000000_00f962_007570_000000_00f963_005317,
      0x00f964_0078fb_000000_00f965_004fbf_000000_00f966_005fa9_000000_00f967_004e0d_000000_00f968_006ccc,
      0x00f969_006578_000000_00f96a_007d22_000000_00f96b_0053c3_000000_00f96c_00585e_000000_00f96d_007701,
      0x00f96e_008449_000000_00f96f_008aaa_000000_00f970_006bba_000000_00f971_008fb0_000000_00f972_006c88,
      0x00f973_0062fe_000000_00f974_0082e5_000000_00f975_0063a0_000000_00f976_007565_000000_00f977_004eae,
      0x00f978_005169_000000_00f979_0051c9_000000_00f97a_006881_000000_00f97b_007ce7_000000_00f97c_00826f,
      0x00f97d_008ad2_000000_00f97e_0091cf_000000_00f97f_0052f5_000000_00f980_005442_000000_00f981_005973,
      0x00f982_005eec_000000_00f983_0065c5_000000_00f984_006ffe_000000_00f985_00792a_000000_00f986_0095ad,
      0x00f987_009a6a_000000_00f988_009e97_000000_00f989_009ece_000000_00f98a_00529b_000000_00f98b_0066c6,
      0x00f98c_006b77_000000_00f98d_008f62_000000_00f98e_005e74_000000_00f98f_006190_000000_00f990_006200,
      0x00f991_00649a_000000_00f992_006f23_000000_00f993_007149_000000_00f994_007489_000000_00f995_0079ca,
      0x00f996_007df4_000000_00f997_00806f_000000_00f998_008f26_000000_00f999_0084ee_000000_00f99a_009023,
      0x00f99b_00934a_000000_00f99c_005217_000000_00f99d_0052a3_000000_00f99e_0054bd_000000_00f99f_0070c8,
      0x00f9a0_0088c2_000000_00f9a1_008aaa_000000_00f9a2_005ec9_000000_00f9a3_005ff5_000000_00f9a4_00637b,
      0x00f9a5_006bae_000000_00f9a6_007c3e_000000_00f9a7_007375_000000_00f9a8_004ee4_000000_00f9a9_0056f9,
      0x00f9aa_005be7_000000_00f9ab_005dba_000000_00f9ac_00601c_000000_00f9ad_0073b2_000000_00f9ae_007469,
      0x00f9af_007f9a_000000_00f9b0_008046_000000_00f9b1_009234_000000_00f9b2_0096f6_000000_00f9b3_009748,
      0x00f9b4_009818_000000_00f9b5_004f8b_000000_00f9b6_0079ae_000000_00f9b7_0091b4_000000_00f9b8_0096b8,
      0x00f9b9_0060e1_000000_00f9ba_004e86_000000_00f9bb_0050da_000000_00f9bc_005bee_000000_00f9bd_005c3f,
      0x00f9be_006599_000000_00f9bf_006a02_000000_00f9c0_0071ce_000000_00f9c1_007642_000000_00f9c2_0084fc,
      0x00f9c3_00907c_000000_00f9c4_009f8d_000000_00f9c5_006688_000000_00f9c6_00962e_000000_00f9c7_005289,
      0x00f9c8_00677b_000000_00f9c9_0067f3_000000_00f9ca_006d41_000000_00f9cb_006e9c_000000_00f9cc_007409,
      0x00f9cd_007559_000000_00f9ce_00786b_000000_00f9cf_007d10_000000_00f9d0_00985e_000000_00f9d1_00516d,
      0x00f9d2_00622e_000000_00f9d3_009678_000000_00f9d4_00502b_000000_00f9d5_005d19_000000_00f9d6_006dea,
      0x00f9d7_008f2a_000000_00f9d8_005f8b_000000_00f9d9_006144_000000_00f9da_006817_000000_00f9db_007387,
      0x00f9dc_009686_000000_00f9dd_005229_000000_00f9de_00540f_000000_00f9df_005c65_000000_00f9e0_006613,
      0x00f9e1_00674e_000000_00f9e2_0068a8_000000_00f9e3_006ce5_000000_00f9e4_007406_000000_00f9e5_0075e2,
      0x00f9e6_007f79_000000_00f9e7_0088cf_000000_00f9e8_0088e1_000000_00f9e9_0091cc_000000_00f9ea_0096e2,
      0x00f9eb_00533f_000000_00f9ec_006eba_000000_00f9ed_00541d_000000_00f9ee_0071d0_000000_00f9ef_007498,
      0x00f9f0_0085fa_000000_00f9f1_0096a3_000000_00f9f2_009c57_000000_00f9f3_009e9f_000000_00f9f4_006797,
      0x00f9f5_006dcb_000000_00f9f6_0081e8_000000_00f9f7_007acb_000000_00f9f8_007b20_000000_00f9f9_007c92,
      0x00f9fa_0072c0_000000_00f9fb_007099_000000_00f9fc_008b58_000000_00f9fd_004ec0_000000_00f9fe_008336,
      0x00f9ff_00523a_000000_00fa00_005207_000000_00fa01_005ea6_000000_00fa02_0062d3_000000_00fa03_007cd6,
      0x00fa04_005b85_000000_00fa05_006d1e_000000_00fa06_0066b4_000000_00fa07_008f3b_000000_00fa08_00884c,
      0x00fa09_00964d_000000_00fa0a_00898b_000000_00fa0b_005ed3_000000_00fa0c_005140_000000_00fa0d_0055c0,
      0x00fa10_00585a_000000_00fa12_006674_000000_00fa15_0051de_000000_00fa16_00732a_000000_00fa17_0076ca,
      0x00fa18_00793c_000000_00fa19_00795e_000000_00fa1a_007965_000000_00fa1b_00798f_000000_00fa1c_009756,
      0x00fa1d_007cbe_000000_00fa1e_007fbd_000000_00fa20_008612_000000_00fa22_008af8_000000_00fa25_009038,
      0x00fa26_0090fd_000000_00fa2a_0098ef_000000_00fa2b_0098fc_000000_00fa2c_009928_000000_00fa2d_009db4,
      0x00fa2e_0090de_000000_00fa2f_0096b7_000000_00fa30_004fae_000000_00fa31_0050e7_000000_00fa32_00514d,
      0x00fa33_0052c9_000000_00fa34_0052e4_000000_00fa35_005351_000000_00fa36_00559d_000000_00fa37_005606,
      0x00fa38_005668_000000_00fa39_005840_000000_00fa3a_0058a8_000000_00fa3b_005c64_000000_00fa3c_005c6e,
      0x00fa3d_006094_000000_00fa3e_006168_000000_00fa3f_00618e_000000_00fa40_0061f2_000000_00fa41_00654f,
      0x00fa42_0065e2_000000_00fa43_006691_000000_00fa44_006885_000000_00fa45_006d77_000000_00fa46_006e1a,
      0x00fa47_006f22_000000_00fa48_00716e_000000_00fa49_00722b_000000_00fa4a_007422_000000_00fa4b_007891,
      0x00fa4c_00793e_000000_00fa4d_007949_000000_00fa4e_007948_000000_00fa4f_007950_000000_00fa50_007956,
      0x00fa51_00795d_000000_00fa52_00798d_000000_00fa53_00798e_000000_00fa54_007a40_000000_00fa55_007a81,
      0x00fa56_007bc0_000000_00fa57_007df4_000000_00fa58_007e09_000000_00fa59_007e41_000000_00fa5a_007f72,
      0x00fa5b_008005_000000_00fa5c_0081ed_000000_00fa5d_008279_000000_00fa5e_008279_000000_00fa5f_008457,
      0x00fa60_008910_000000_00fa61_008996_000000_00fa62_008b01_000000_00fa63_008b39_000000_00fa64_008cd3,
      0x00fa65_008d08_000000_00fa66_008fb6_000000_00fa67_009038_000000_00fa68_0096e3_000000_00fa69_0097ff,
      0x00fa6a_00983b_000000_00fa6b_006075_000000_00fa6c_0242ee_000000_00fa6d_008218_000000_00fa70_004e26,
      0x00fa71_0051b5_000000_00fa72_005168_000000_00fa73_004f80_000000_00fa74_005145_000000_00fa75_005180,
      0x00fa76_0052c7_000000_00fa77_0052fa_000000_00fa78_00559d_000000_00fa79_005555_000000_00fa7a_005599,
      0x00fa7b_0055e2_000000_00fa7c_00585a_000000_00fa7d_0058b3_000000_00fa7e_005944_000000_00fa7f_005954,
      0x00fa80_005a62_000000_00fa81_005b28_000000_00fa82_005ed2_000000_00fa83_005ed9_000000_00fa84_005f69,
      0x00fa85_005fad_000000_00fa86_0060d8_000000_00fa87_00614e_000000_00fa88_006108_000000_00fa89_00618e,
      0x00fa8a_006160_000000_00fa8b_0061f2_000000_00fa8c_006234_000000_00fa8d_0063c4_000000_00fa8e_00641c,
      0x00fa8f_006452_000000_00fa90_006556_000000_00fa91_006674_000000_00fa92_006717_000000_00fa93_00671b,
      0x00fa94_006756_000000_00fa95_006b79_000000_00fa96_006bba_000000_00fa97_006d41_000000_00fa98_006edb,
      0x00fa99_006ecb_000000_00fa9a_006f22_000000_00fa9b_00701e_000000_00fa9c_00716e_000000_00fa9d_0077a7,
      0x00fa9e_007235_000000_00fa9f_0072af_000000_00faa0_00732a_000000_00faa1_007471_000000_00faa2_007506,
      0x00faa3_00753b_000000_00faa4_00761d_000000_00faa5_00761f_000000_00faa6_0076ca_000000_00faa7_0076db,
      0x00faa8_0076f4_000000_00faa9_00774a_000000_00faaa_007740_000000_00faab_0078cc_000000_00faac_007ab1,
      0x00faad_007bc0_000000_00faae_007c7b_000000_00faaf_007d5b_000000_00fab0_007df4_000000_00fab1_007f3e,
      0x00fab2_008005_000000_00fab3_008352_000000_00fab4_0083ef_000000_00fab5_008779_000000_00fab6_008941,
      0x00fab7_008986_000000_00fab8_008996_000000_00fab9_008abf_000000_00faba_008af8_000000_00fabb_008acb,
      0x00fabc_008b01_000000_00fabd_008afe_000000_00fabe_008aed_000000_00fabf_008b39_000000_00fac0_008b8a,
      0x00fac1_008d08_000000_00fac2_008f38_000000_00fac3_009072_000000_00fac4_009199_000000_00fac5_009276,
      0x00fac6_00967c_000000_00fac7_0096e3_000000_00fac8_009756_000000_00fac9_0097db_000000_00faca_0097ff,
      0x00facb_00980b_000000_00facc_00983b_000000_00facd_009b12_000000_00face_009f9c_000000_00facf_02284a,
      0x00fad0_022844_000000_00fad1_0233d5_000000_00fad2_003b9d_000000_00fad3_004018_000000_00fad4_004039,
      0x00fad5_025249_000000_00fad6_025cd0_000000_00fad7_027ed3_000000_00fad8_009f43_000000_00fad9_009f8e,
      0x00fb00_000066_000066_000000_00fb01_000066_000069_000000_00fb02_000066_00006c,
      0x00fb03_000066_000066_000069_000000_00fb04_000066_000066_00006c_000000_00fb05_000073_000074,
      0x00fb06_000073_000074_000000_00fb13_000574_000576_000000_00fb14_000574_000565,
      0x00fb15_000574_00056b_000000_00fb16_00057e_000576_000000_00fb17_000574_00056d,
      0x00fb1d_0005d9_0005b4_000000_00fb1f_0005f2_0005b7_000000_00fb20_0005e2_000000_00fb21_0005d0,
      0x00fb22_0005d3_000000_00fb23_0005d4_000000_00fb27_0005e8_000000_00fb28_0005ea_000000_00fb29_00002b,
      0x00fb2a_0005e9_0005c1_000000_00fb2b_0005e9_0005c2_000000_00fb2c_0005e9_0005bc_0005c1,
      0x00fb2d_0005e9_0005bc_0005c2_000000_00fb2e_0005d0_0005b7_000000_00fb2f_0005d0_0005b8,
      0x00fb30_0005d0_0005bc_000000_00fb31_0005d1_0005bc_000000_00fb32_0005d2_0005bc,
      0x00fb33_0005d3_0005bc_000000_00fb34_0005d4_0005bc_000000_00fb35_0005d5_0005bc,
      0x00fb36_0005d6_0005bc_000000_00fb38_0005d8_0005bc_000000_00fb39_0005d9_0005bc,
      0x00fb3a_0005da_0005bc_000000_00fb3b_0005db_0005bc_000000_00fb3c_0005dc_0005bc,
      0x00fb3e_0005de_0005bc_000000_00fb40_0005e0_0005bc_000000_00fb41_0005e1_0005bc,
      0x00fb43_0005e3_0005bc_000000_00fb44_0005e4_0005bc_000000_00fb46_0005e6_0005bc,
      0x00fb47_0005e7_0005bc_000000_00fb48_0005e8_0005bc_000000_00fb49_0005e9_0005bc,
      0x00fb4a_0005ea_0005bc_000000_00fb4b_0005d5_0005b9_000000_00fb4c_0005d1_0005bf,
      0x00fb4d_0005db_0005bf_000000_00fb4e_0005e4_0005bf_000000_00fb4f_0005d0_0005dc_000000_00fb50_000671,
      0x00fb51_000671_000000_00fb82_00068d_000000_00fb83_00068d_000000_00fb84_00068c_000000_00fb85_00068c,
      0x00fb86_00068e_000000_00fb87_00068e_000000_00fb88_000688_000000_00fb89_000688_000000_00fb8a_000698,
      0x00fb8b_000698_000000_00fb8c_000691_000000_00fb8d_000691_000000_00fb9e_0006ba_000000_00fb9f_0006ba,
      0x00fba4_0006c0_000000_00fba5_0006c0_000000_00fbae_0006d2_000000_00fbaf_0006d2_000000_00fbb0_0006d3,
      0x00fbb1_0006d3_000000_00fbd7_0006c7_000000_00fbd8_0006c7_000000_00fbd9_0006c6_000000_00fbda_0006c6,
      0x00fbdb_0006c8_000000_00fbdc_0006c8_000000_00fbdd_0006c7_000674_000000_00fbde_0006cb,
      0x00fbdf_0006cb_000000_00fbe0_0006c5_000000_00fbe1_0006c5_000000_00fbe2_0006c9_000000_00fbe3_0006c9,
      0x00fbe8_000649_000000_00fbe9_000649_000000_00fbea_000626_000627_000000_00fbeb_000626_000627,
      0x00fbec_000626_0006d5_000000_00fbed_000626_0006d5_000000_00fbee_000626_000648,
      0x00fbef_000626_000648_000000_00fbf0_000626_0006c7_000000_00fbf1_000626_0006c7,
      0x00fbf2_000626_0006c6_000000_00fbf3_000626_0006c6_000000_00fbf4_000626_0006c8,
      0x00fbf5_000626_0006c8_000000_00fbf6_000626_0006d0_000000_00fbf7_000626_0006d0,
      0x00fbf8_000626_0006d0_000000_00fbf9_000626_000649_000000_00fbfa_000626_000649,
      0x00fbfb_000626_000649_000000_00fc00_000626_00062c_000000_00fc01_000626_00062d,
      0x00fc02_000626_000645_000000_00fc03_000626_000649_000000_00fc04_000626_00064a,
      0x00fc05_000628_00062c_000000_00fc06_000628_00062d_000000_00fc07_000628_00062e,
      0x00fc08_000628_000645_000000_00fc09_000628_000649_000000_00fc0a_000628_00064a,
      0x00fc0b_00062a_00062c_000000_00fc0c_00062a_00062d_000000_00fc0d_00062a_00062e,
      0x00fc0e_00062a_000645_000000_00fc0f_00062a_000649_000000_00fc10_00062a_00064a,
      0x00fc11_00062b_00062c_000000_00fc12_00062b_000645_000000_00fc13_00062b_000649,
      0x00fc14_00062b_00064a_000000_00fc15_00062c_00062d_000000_00fc16_00062c_000645,
      0x00fc17_00062d_00062c_000000_00fc18_00062d_000645_000000_00fc19_00062e_00062c,
      0x00fc1a_00062e_00062d_000000_00fc1b_00062e_000645_000000_00fc1c_000633_00062c,
      0x00fc1d_000633_00062d_000000_00fc1e_000633_00062e_000000_00fc1f_000633_000645,
      0x00fc20_000635_00062d_000000_00fc21_000635_000645_000000_00fc22_000636_00062c,
      0x00fc23_000636_00062d_000000_00fc24_000636_00062e_000000_00fc25_000636_000645,
      0x00fc26_000637_00062d_000000_00fc27_000637_000645_000000_00fc28_000638_000645,
      0x00fc29_000639_00062c_000000_00fc2a_000639_000645_000000_00fc2b_00063a_00062c,
      0x00fc2c_00063a_000645_000000_00fc2d_000641_00062c_000000_00fc2e_000641_00062d,
      0x00fc2f_000641_00062e_000000_00fc30_000641_000645_000000_00fc31_000641_000649,
      0x00fc32_000641_00064a_000000_00fc33_000642_00062d_000000_00fc34_000642_000645,
      0x00fc35_000642_000649_000000_00fc36_000642_00064a_000000_00fc37_000643_000627,
      0x00fc38_000643_00062c_000000_00fc39_000643_00062d_000000_00fc3a_000643_00062e,
      0x00fc3b_000643_000644_000000_00fc3c_000643_000645_000000_00fc3d_000643_000649,
      0x00fc3e_000643_00064a_000000_00fc3f_000644_00062c_000000_00fc40_000644_00062d,
      0x00fc41_000644_00062e_000000_00fc42_000644_000645_000000_00fc43_000644_000649,
      0x00fc44_000644_00064a_000000_00fc45_000645_00062c_000000_00fc46_000645_00062d,
      0x00fc47_000645_00062e_000000_00fc48_000645_000645_000000_00fc49_000645_000649,
      0x00fc4a_000645_00064a_000000_00fc4b_000646_00062c_000000_00fc4c_000646_00062d,
      0x00fc4d_000646_00062e_000000_00fc4e_000646_000645_000000_00fc4f_000646_000649,
      0x00fc50_000646_00064a_000000_00fc51_000647_00062c_000000_00fc52_000647_000645,
      0x00fc53_000647_000649_000000_00fc54_000647_00064a_000000_00fc55_00064a_00062c,
      0x00fc56_00064a_00062d_000000_00fc57_00064a_00062e_000000_00fc58_00064a_000645,
      0x00fc59_00064a_000649_000000_00fc5a_00064a_00064a_000000_00fc5b_000630_000670,
      0x00fc5c_000631_000670_000000_00fc5d_000649_000670_000000_00fc5e_000020_00064c_000651,
      0x00fc5f_000020_00064d_000651_000000_00fc60_000020_00064e_000651_000000_00fc61_000020_00064f_000651,
      0x00fc62_000020_000650_000651_000000_00fc63_000020_000651_000670_000000_00fc64_000626_000631,
      0x00fc65_000626_000632_000000_00fc66_000626_000645_000000_00fc67_000626_000646,
      0x00fc68_000626_000649_000000_00fc69_000626_00064a_000000_00fc6a_000628_000631,
      0x00fc6b_000628_000632_000000_00fc6c_000628_000645_000000_00fc6d_000628_000646,
      0x00fc6e_000628_000649_000000_00fc6f_000628_00064a_000000_00fc70_00062a_000631,
      0x00fc71_00062a_000632_000000_00fc72_00062a_000645_000000_00fc73_00062a_000646,
      0x00fc74_00062a_000649_000000_00fc75_00062a_00064a_000000_00fc76_00062b_000631,
      0x00fc77_00062b_000632_000000_00fc78_00062b_000645_000000_00fc79_00062b_000646,
      0x00fc7a_00062b_000649_000000_00fc7b_00062b_00064a_000000_00fc7c_000641_000649,
      0x00fc7d_000641_00064a_000000_00fc7e_000642_000649_000000_00fc7f_000642_00064a,
      0x00fc80_000643_000627_000000_00fc81_000643_000644_000000_00fc82_000643_000645,
      0x00fc83_000643_000649_000000_00fc84_000643_00064a_000000_00fc85_000644_000645,
      0x00fc86_000644_000649_000000_00fc87_000644_00064a_000000_00fc88_000645_000627,
      0x00fc89_000645_000645_000000_00fc8a_000646_000631_000000_00fc8b_000646_000632,
      0x00fc8c_000646_000645_000000_00fc8d_000646_000646_000000_00fc8e_000646_000649,
      0x00fc8f_000646_00064a_000000_00fc90_000649_000670_000000_00fc91_00064a_000631,
      0x00fc92_00064a_000632_000000_00fc93_00064a_000645_000000_00fc94_00064a_000646,
      0x00fc95_00064a_000649_000000_00fc96_00064a_00064a_000000_00fc97_000626_00062c,
      0x00fc98_000626_00062d_000000_00fc99_000626_00062e_000000_00fc9a_000626_000645,
      0x00fc9b_000626_000647_000000_00fc9c_000628_00062c_000000_00fc9d_000628_00062d,
      0x00fc9e_000628_00062e_000000_00fc9f_000628_000645_000000_00fca0_000628_000647,
      0x00fca1_00062a_00062c_000000_00fca2_00062a_00062d_000000_00fca3_00062a_00062e,
      0x00fca4_00062a_000645_000000_00fca5_00062a_000647_000000_00fca6_00062b_000645,
      0x00fca7_00062c_00062d_000000_00fca8_00062c_000645_000000_00fca9_00062d_00062c,
      0x00fcaa_00062d_000645_000000_00fcab_00062e_00062c_000000_00fcac_00062e_000645,
      0x00fcad_000633_00062c_000000_00fcae_000633_00062d_000000_00fcaf_000633_00062e,
      0x00fcb0_000633_000645_000000_00fcb1_000635_00062d_000000_00fcb2_000635_00062e,
      0x00fcb3_000635_000645_000000_00fcb4_000636_00062c_000000_00fcb5_000636_00062d,
      0x00fcb6_000636_00062e_000000_00fcb7_000636_000645_000000_00fcb8_000637_00062d,
      0x00fcb9_000638_000645_000000_00fcba_000639_00062c_000000_00fcbb_000639_000645,
      0x00fcbc_00063a_00062c_000000_00fcbd_00063a_000645_000000_00fcbe_000641_00062c,
      0x00fcbf_000641_00062d_000000_00fcc0_000641_00062e_000000_00fcc1_000641_000645,
      0x00fcc2_000642_00062d_000000_00fcc3_000642_000645_000000_00fcc4_000643_00062c,
      0x00fcc5_000643_00062d_000000_00fcc6_000643_00062e_000000_00fcc7_000643_000644,
      0x00fcc8_000643_000645_000000_00fcc9_000644_00062c_000000_00fcca_000644_00062d,
      0x00fccb_000644_00062e_000000_00fccc_000644_000645_000000_00fccd_000644_000647,
      0x00fcce_000645_00062c_000000_00fccf_000645_00062d_000000_00fcd0_000645_00062e,
      0x00fcd1_000645_000645_000000_00fcd2_000646_00062c_000000_00fcd3_000646_00062d,
      0x00fcd4_000646_00062e_000000_00fcd5_000646_000645_000000_00fcd6_000646_000647,
      0x00fcd7_000647_00062c_000000_00fcd8_000647_000645_000000_00fcd9_000647_000670,
      0x00fcda_00064a_00062c_000000_00fcdb_00064a_00062d_000000_00fcdc_00064a_00062e,
      0x00fcdd_00064a_000645_000000_00fcde_00064a_000647_000000_00fcdf_000626_000645,
      0x00fce0_000626_000647_000000_00fce1_000628_000645_000000_00fce2_000628_000647,
      0x00fce3_00062a_000645_000000_00fce4_00062a_000647_000000_00fce5_00062b_000645,
      0x00fce6_00062b_000647_000000_00fce7_000633_000645_000000_00fce8_000633_000647,
      0x00fce9_000634_000645_000000_00fcea_000634_000647_000000_00fceb_000643_000644,
      0x00fcec_000643_000645_000000_00fced_000644_000645_000000_00fcee_000646_000645,
      0x00fcef_000646_000647_000000_00fcf0_00064a_000645_000000_00fcf1_00064a_000647,
      0x00fcf2_000640_00064e_000651_000000_00fcf3_000640_00064f_000651_000000_00fcf4_000640_000650_000651,
      0x00fcf5_000637_000649_000000_00fcf6_000637_00064a_000000_00fcf7_000639_000649,
      0x00fcf8_000639_00064a_000000_00fcf9_00063a_000649_000000_00fcfa_00063a_00064a,
      0x00fcfb_000633_000649_000000_00fcfc_000633_00064a_000000_00fcfd_000634_000649,
      0x00fcfe_000634_00064a_000000_00fcff_00062d_000649_000000_00fd00_00062d_00064a,
      0x00fd01_00062c_000649_000000_00fd02_00062c_00064a_000000_00fd03_00062e_000649,
      0x00fd04_00062e_00064a_000000_00fd05_000635_000649_000000_00fd06_000635_00064a,
      0x00fd07_000636_000649_000000_00fd08_000636_00064a_000000_00fd09_000634_00062c,
      0x00fd0a_000634_00062d_000000_00fd0b_000634_00062e_000000_00fd0c_000634_000645,
      0x00fd0d_000634_000631_000000_00fd0e_000633_000631_000000_00fd0f_000635_000631,
      0x00fd10_000636_000631_000000_00fd11_000637_000649_000000_00fd12_000637_00064a,
      0x00fd13_000639_000649_000000_00fd14_000639_00064a_000000_00fd15_00063a_000649,
      0x00fd16_00063a_00064a_000000_00fd17_000633_000649_000000_00fd18_000633_00064a,
      0x00fd19_000634_000649_000000_00fd1a_000634_00064a_000000_00fd1b_00062d_000649,
      0x00fd1c_00062d_00064a_000000_00fd1d_00062c_000649_000000_00fd1e_00062c_00064a,
      0x00fd1f_00062e_000649_000000_00fd20_00062e_00064a_000000_00fd21_000635_000649,
      0x00fd22_000635_00064a_000000_00fd23_000636_000649_000000_00fd24_000636_00064a,
      0x00fd25_000634_00062c_000000_00fd26_000634_00062d_000000_00fd27_000634_00062e,
      0x00fd28_000634_000645_000000_00fd29_000634_000631_000000_00fd2a_000633_000631,
      0x00fd2b_000635_000631_000000_00fd2c_000636_000631_000000_00fd2d_000634_00062c,
      0x00fd2e_000634_00062d_000000_00fd2f_000634_00062e_000000_00fd30_000634_000645,
      0x00fd31_000633_000647_000000_00fd32_000634_000647_000000_00fd33_000637_000645,
      0x00fd34_000633_00062c_000000_00fd35_000633_00062d_000000_00fd36_000633_00062e,
      0x00fd37_000634_00062c_000000_00fd38_000634_00062d_000000_00fd39_000634_00062e,
      0x00fd3a_000637_000645_000000_00fd3b_000638_000645_000000_00fd3c_000627_00064b,
      0x00fd3d_000627_00064b_000000_00fd50_00062a_00062c_000645_000000_00fd51_00062a_00062d_00062c,
      0x00fd52_00062a_00062d_00062c_000000_00fd53_00062a_00062d_000645_000000_00fd54_00062a_00062e_000645,
      0x00fd55_00062a_000645_00062c_000000_00fd56_00062a_000645_00062d_000000_00fd57_00062a_000645_00062e,
      0x00fd58_00062c_000645_00062d_000000_00fd59_00062c_000645_00062d_000000_00fd5a_00062d_000645_00064a,
      0x00fd5b_00062d_000645_000649_000000_00fd5c_000633_00062d_00062c_000000_00fd5d_000633_00062c_00062d,
      0x00fd5e_000633_00062c_000649_000000_00fd5f_000633_000645_00062d_000000_00fd60_000633_000645_00062d,
      0x00fd61_000633_000645_00062c_000000_00fd62_000633_000645_000645_000000_00fd63_000633_000645_000645,
      0x00fd64_000635_00062d_00062d_000000_00fd65_000635_00062d_00062d_000000_00fd66_000635_000645_000645,
      0x00fd67_000634_00062d_000645_000000_00fd68_000634_00062d_000645_000000_00fd69_000634_00062c_00064a,
      0x00fd6a_000634_000645_00062e_000000_00fd6b_000634_000645_00062e_000000_00fd6c_000634_000645_000645,
      0x00fd6d_000634_000645_000645_000000_00fd6e_000636_00062d_000649_000000_00fd6f_000636_00062e_000645,
      0x00fd70_000636_00062e_000645_000000_00fd71_000637_000645_00062d_000000_00fd72_000637_000645_00062d,
      0x00fd73_000637_000645_000645_000000_00fd74_000637_000645_00064a_000000_00fd75_000639_00062c_000645,
      0x00fd76_000639_000645_000645_000000_00fd77_000639_000645_000645_000000_00fd78_000639_000645_000649,
      0x00fd79_00063a_000645_000645_000000_00fd7a_00063a_000645_00064a_000000_00fd7b_00063a_000645_000649,
      0x00fd7c_000641_00062e_000645_000000_00fd7d_000641_00062e_000645_000000_00fd7e_000642_000645_00062d,
      0x00fd7f_000642_000645_000645_000000_00fd80_000644_00062d_000645_000000_00fd81_000644_00062d_00064a,
      0x00fd82_000644_00062d_000649_000000_00fd83_000644_00062c_00062c_000000_00fd84_000644_00062c_00062c,
      0x00fd85_000644_00062e_000645_000000_00fd86_000644_00062e_000645_000000_00fd87_000644_000645_00062d,
      0x00fd88_000644_000645_00062d_000000_00fd89_000645_00062d_00062c_000000_00fd8a_000645_00062d_000645,
      0x00fd8b_000645_00062d_00064a_000000_00fd8c_000645_00062c_00062d_000000_00fd8d_000645_00062c_000645,
      0x00fd8e_000645_00062e_00062c_000000_00fd8f_000645_00062e_000645_000000_00fd92_000645_00062c_00062e,
      0x00fd93_000647_000645_00062c_000000_00fd94_000647_000645_000645_000000_00fd95_000646_00062d_000645,
      0x00fd96_000646_00062d_000649_000000_00fd97_000646_00062c_000645_000000_00fd98_000646_00062c_000645,
      0x00fd99_000646_00062c_000649_000000_00fd9a_000646_000645_00064a_000000_00fd9b_000646_000645_000649,
      0x00fd9c_00064a_000645_000645_000000_00fd9d_00064a_000645_000645_000000_00fd9e_000628_00062e_00064a,
      0x00fd9f_00062a_00062c_00064a_000000_00fda0_00062a_00062c_000649_000000_00fda1_00062a_00062e_00064a,
      0x00fda2_00062a_00062e_000649_000000_00fda3_00062a_000645_00064a_000000_00fda4_00062a_000645_000649,
      0x00fda5_00062c_000645_00064a_000000_00fda6_00062c_00062d_000649_000000_00fda7_00062c_000645_000649,
      0x00fda8_000633_00062e_000649_000000_00fda9_000635_00062d_00064a_000000_00fdaa_000634_00062d_00064a,
      0x00fdab_000636_00062d_00064a_000000_00fdac_000644_00062c_00064a_000000_00fdad_000644_000645_00064a,
      0x00fdae_00064a_00062d_00064a_000000_00fdaf_00064a_00062c_00064a_000000_00fdb0_00064a_000645_00064a,
      0x00fdb1_000645_000645_00064a_000000_00fdb2_000642_000645_00064a_000000_00fdb3_000646_00062d_00064a,
      0x00fdb4_000642_000645_00062d_000000_00fdb5_000644_00062d_000645_000000_00fdb6_000639_000645_00064a,
      0x00fdb7_000643_000645_00064a_000000_00fdb8_000646_00062c_00062d_000000_00fdb9_000645_00062e_00064a,
      0x00fdba_000644_00062c_000645_000000_00fdbb_000643_000645_000645_000000_00fdbc_000644_00062c_000645,
      0x00fdbd_000646_00062c_00062d_000000_00fdbe_00062c_00062d_00064a_000000_00fdbf_00062d_00062c_00064a,
      0x00fdc0_000645_00062c_00064a_000000_00fdc1_000641_000645_00064a_000000_00fdc2_000628_00062d_00064a,
      0x00fdc3_000643_000645_000645_000000_00fdc4_000639_00062c_000645_000000_00fdc5_000635_000645_000645,
      0x00fdc6_000633_00062e_00064a_000000_00fdc7_000646_00062c_00064a_000000_00fdf0_000635_000644_0006d2,
      0x00fdf1_000642_000644_0006d2_000000_00fdf2_000627_000644_000644_000647,
      0x00fdf3_000627_000643_000628_000631_000000_00fdf4_000645_00062d_000645_00062f,
      0x00fdf5_000635_000644_000639_000645_000000_00fdf6_000631_000633_000648_000644,
      0x00fdf7_000639_000644_00064a_000647_000000_00fdf8_000648_000633_000644_000645,
      0x00fdf9_000635_000644_000649,
      0x00fdfa_000635_000644_000649_000020_000627_000644_000644_000647_000020_000639_000644_00064a_000647_000020_000648_000633_000644_000645,
      0x00fdfb_00062c_000644_000020_00062c_000644_000627_000644_000647,
      0x00fdfc_000631_0006cc_000627_000644_000000_00fe10_00002c_000000_00fe11_003001_000000_00fe13_00003a,
      0x00fe14_00003b_000000_00fe15_000021_000000_00fe16_00003f_000000_00fe17_003016_000000_00fe18_003017,
      0x00fe31_002014_000000_00fe32_002013_000000_00fe33_00005f_000000_00fe34_00005f_000000_00fe35_000028,
      0x00fe36_000029_000000_00fe37_00007b_000000_00fe38_00007d_000000_00fe39_003014_000000_00fe3a_003015,
      0x00fe3b_003010_000000_00fe3c_003011_000000_00fe3d_00300a_000000_00fe3e_00300b_000000_00fe3f_003008,
      0x00fe40_003009_000000_00fe47_00005b_000000_00fe48_00005d_000000_00fe49_000020_000305,
      0x00fe4a_000020_000305_000000_00fe4b_000020_000305_000000_00fe4c_000020_000305_000000_00fe50_00002c,
      0x00fe51_003001_000000_00fe54_00003b_000000_00fe55_00003a_000000_00fe56_00003f_000000_00fe57_000021,
      0x00fe58_002014_000000_00fe59_000028_000000_00fe5a_000029_000000_00fe5b_00007b_000000_00fe5c_00007d,
      0x00fe5d_003014_000000_00fe5e_003015_000000_00fe5f_000023_000000_00fe60_000026_000000_00fe61_00002a,
      0x00fe62_00002b_000000_00fe63_00002d_000000_00fe64_00003c_000000_00fe65_00003e_000000_00fe66_00003d,
      0x00fe68_00005c_000000_00fe69_000024_000000_00fe6a_000025_000000_00fe6b_000040,
      0x00fe70_000020_00064b_000000_00fe71_000640_00064b_000000_00fe72_000020_00064c,
      0x00fe74_000020_00064d_000000_00fe76_000020_00064e_000000_00fe77_000640_00064e,
      0x00fe78_000020_00064f_000000_00fe79_000640_00064f_000000_00fe7a_000020_000650,
      0x00fe7b_000640_000650_000000_00fe7c_000020_000651_000000_00fe7d_000640_000651,
      0x00fe7e_000020_000652_000000_00fe7f_000640_000652_000000_00fe8c_000626_000000_00fe8f_000628,
      0x00fe92_000628_000000_00fe95_00062a_000000_00feef_000649_000000_00fef0_000649,
      0x00fef5_000644_000622_000000_00fef6_000644_000622_000000_00fef7_000644_000623,
      0x00fef8_000644_000623_000000_00fef9_000644_000625_000000_00fefa_000644_000625,
      0x00fefb_000644_000627_000000_00fefc_000644_000627_000000_00ff5f_002985_000000_00ff60_002986,
      0x00ff61_00002e_000000_00ff62_00300c_000000_00ff63_00300d_000000_00ff64_003001_000000_00ff65_0030fb,
      0x00ff66_0030f2_000000_00ff6f_0030c3_000000_00ff70_0030fc_000000_00ff8b_0030d2_000000_00ff8c_0030d5,
      0x00ff8d_0030d8_000000_00ff8e_0030db_000000_00ff9c_0030ef_000000_00ff9d_0030f3_000000_00ff9e_003099,
      0x00ff9f_00309a_000000_00ffa1_001100_000000_00ffa2_001101_000000_00ffa3_0011aa_000000_00ffa4_001102,
      0x00ffa5_0011ac_000000_00ffa6_0011ad_000000_00ffb0_00111a_000000_00ffb4_001121_000000_00ffe0_0000a2,
      0x00ffe1_0000a3_000000_00ffe2_0000ac_000000_00ffe3_000020_000304_000000_00ffe4_0000a6,
      0x00ffe5_0000a5_000000_00ffe6_0020a9_000000_00ffe8_002502_000000_00ffed_0025a0_000000_00ffee_0025cb,
      0x010595_0105bc_000000_010781_0002d0_000000_010782_0002d1_000000_010783_0000e6_000000_010784_000299,
      0x010785_000253_000000_010787_0002a3_000000_010788_00ab66_000000_010789_0002a5_000000_01078a_0002a4,
      0x01078b_000256_000000_01078c_000257_000000_01078d_001d91_000000_01078e_000258_000000_01078f_00025e,
      0x010790_0002a9_000000_010791_000264_000000_010792_000262_000000_010793_000260_000000_010794_00029b,
      0x010795_000127_000000_010796_00029c_000000_010797_000267_000000_010798_000284_000000_010799_0002aa,
      0x01079a_0002ab_000000_01079b_00026c_000000_01079c_01df04_000000_01079d_00a78e_000000_01079e_00026e,
      0x01079f_01df05_000000_0107a0_00028e_000000_0107a1_01df06_000000_0107a2_0000f8_000000_0107a3_000276,
      0x0107a4_000277_000000_0107a5_000071_000000_0107a6_00027a_000000_0107a7_01df08_000000_0107a8_00027d,
      0x0107a9_00027e_000000_0107aa_000280_000000_0107ab_0002a8_000000_0107ac_0002a6_000000_0107ad_00ab67,
      0x0107ae_0002a7_000000_0107af_000288_000000_0107b0_002c71_000000_0107b2_00028f_000000_0107b3_0002a1,
      0x0107b4_0002a2_000000_0107b5_000298_000000_0107b9_01df0a_000000_0107ba_01df1e_000000_0107bb_000287,
      0x0107bc_000296_000000_0107bd_000297_000000_0107be_00029e_000000_0107bf_01df0b,
      0x01d15e_01d157_01d165_000000_01d15f_01d158_01d165_000000_01d160_01d158_01d165_01d16e,
      0x01d161_01d158_01d165_01d16f_000000_01d162_01d158_01d165_01d170_000000_01d163_01d158_01d165_01d171,
      0x01d164_01d158_01d165_01d172_000000_01d1bb_01d1b9_01d165_000000_01d1bc_01d1ba_01d165,
      0x01d1bd_01d1b9_01d165_01d16e_000000_01d1be_01d1ba_01d165_01d16e_000000_01d1bf_01d1b9_01d165_01d16f,
      0x01d1c0_01d1ba_01d165_01d16f_000000_01d49c_000061_000000_01d49e_000063_000000_01d49f_000064,
      0x01d4a2_000067_000000_01d4a5_00006a_000000_01d4a6_00006b_000000_01d504_000061_000000_01d508_000065,
      0x01d50a_000067_000000_01d538_000061_000000_01d541_00006a_000000_01d543_00006c_000000_01d6a4_000131,
      0x01d6a5_000237_000000_01d6a6_000073_000073_000000_01d6b9_0003b8_000000_01d6c1_002207,
      0x01d6d3_0003c3_000000_01d6db_002202_000000_01d6dc_0003b5_000000_01d6dd_0003b8_000000_01d6de_0003ba,
      0x01d6df_0003c6_000000_01d6e0_0003c1_000000_01d6e1_0003c0_000000_01d6f3_0003b8_000000_01d6fb_002207,
      0x01d70d_0003c3_000000_01d715_002202_000000_01d716_0003b5_000000_01d717_0003b8_000000_01d718_0003ba,
      0x01d719_0003c6_000000_01d71a_0003c1_000000_01d71b_0003c0_000000_01d72d_0003b8_000000_01d735_002207,
      0x01d747_0003c3_000000_01d74f_002202_000000_01d750_0003b5_000000_01d751_0003b8_000000_01d752_0003ba,
      0x01d753_0003c6_000000_01d754_0003c1_000000_01d755_0003c0_000000_01d767_0003b8_000000_01d76f_002207,
      0x01d781_0003c3_000000_01d789_002202_000000_01d78a_0003b5_000000_01d78b_0003b8_000000_01d78c_0003ba,
      0x01d78d_0003c6_000000_01d78e_0003c1_000000_01d78f_0003c0_000000_01d7a1_0003b8_000000_01d7a9_002207,
      0x01d7bb_0003c3_000000_01d7c3_002202_000000_01d7c4_0003b5_000000_01d7c5_0003b8_000000_01d7c6_0003ba,
      0x01d7c7_0003c6_000000_01d7c8_0003c1_000000_01d7c9_0003c0_000000_01d7ca_0003dd_000000_01d7cb_0003dd,
      0x01e047_00044b_000000_01e048_00044d_000000_01e049_00044e_000000_01e04a_00a689_000000_01e04b_0004d9,
      0x01e04c_000456_000000_01e04d_000458_000000_01e04e_0004e9_000000_01e04f_0004af_000000_01e050_0004cf,
      0x01e05a_00043a_000000_01e05b_00043b_000000_01e05c_00043e_000000_01e065_00044a_000000_01e066_00044b,
      0x01e067_000491_000000_01e068_000456_000000_01e069_000455_000000_01e06a_00045f_000000_01e06b_0004ab,
      0x01e06c_00a651_000000_01e06d_0004b1_000000_01ee00_000627_000000_01ee01_000628_000000_01ee02_00062c,
      0x01ee03_00062f_000000_01ee05_000648_000000_01ee06_000632_000000_01ee07_00062d_000000_01ee08_000637,
      0x01ee09_00064a_000000_01ee0e_000633_000000_01ee0f_000639_000000_01ee10_000641_000000_01ee11_000635,
      0x01ee12_000642_000000_01ee13_000631_000000_01ee14_000634_000000_01ee15_00062a_000000_01ee16_00062b,
      0x01ee17_00062e_000000_01ee18_000630_000000_01ee1c_00066e_000000_01ee1d_0006ba_000000_01ee1e_0006a1,
      0x01ee1f_00066f_000000_01ee21_000628_000000_01ee22_00062c_000000_01ee24_000647_000000_01ee27_00062d,
      0x01ee29_00064a_000000_01ee2e_000633_000000_01ee2f_000639_000000_01ee30_000641_000000_01ee31_000635,
      0x01ee32_000642_000000_01ee34_000634_000000_01ee35_00062a_000000_01ee36_00062b_000000_01ee37_00062e,
      0x01ee39_000636_000000_01ee3b_00063a_000000_01ee42_00062c_000000_01ee47_00062d_000000_01ee49_00064a,
      0x01ee4b_000644_000000_01ee4d_000646_000000_01ee4e_000633_000000_01ee4f_000639_000000_01ee51_000635,
      0x01ee52_000642_000000_01ee54_000634_000000_01ee57_00062e_000000_01ee59_000636_000000_01ee5b_00063a,
      0x01ee5d_0006ba_000000_01ee5f_00066f_000000_01ee61_000628_000000_01ee62_00062c_000000_01ee64_000647,
      0x01ee67_00062d_000000_01ee68_000637_000000_01ee69_00064a_000000_01ee6a_000643_000000_01ee6c_000645,
      0x01ee6d_000646_000000_01ee6e_000633_000000_01ee6f_000639_000000_01ee70_000641_000000_01ee71_000635,
      0x01ee72_000642_000000_01ee74_000634_000000_01ee75_00062a_000000_01ee76_00062b_000000_01ee77_00062e,
      0x01ee7c_00066e_000000_01ee7e_0006a1_000000_01ee80_000627_000000_01ee81_000628_000000_01ee82_00062c,
      0x01ee83_00062f_000000_01ee84_000647_000000_01ee85_000648_000000_01ee86_000632_000000_01ee87_00062d,
      0x01ee88_000637_000000_01ee89_00064a_000000_01ee8e_000633_000000_01ee8f_000639_000000_01ee90_000641,
      0x01ee91_000635_000000_01ee92_000642_000000_01ee93_000631_000000_01ee94_000634_000000_01ee95_00062a,
      0x01ee96_00062b_000000_01ee97_00062e_000000_01ee98_000630_000000_01eea1_000628_000000_01eea2_00062c,
      0x01eea3_00062f_000000_01eea5_000648_000000_01eea6_000632_000000_01eea7_00062d_000000_01eea8_000637,
      0x01eea9_00064a_000000_01eeae_000633_000000_01eeaf_000639_000000_01eeb0_000641_000000_01eeb1_000635,
      0x01eeb2_000642_000000_01eeb3_000631_000000_01eeb4_000634_000000_01eeb5_00062a_000000_01eeb6_00062b,
      0x01eeb7_00062e_000000_01eeb8_000630_000000_01f101_000030_00002c_000000_01f102_000031_00002c,
      0x01f103_000032_00002c_000000_01f104_000033_00002c_000000_01f105_000034_00002c,
      0x01f106_000035_00002c_000000_01f107_000036_00002c_000000_01f108_000037_00002c,
      0x01f109_000038_00002c_000000_01f10a_000039_00002c_000000_01f110_000028_000061_000029,
      0x01f111_000028_000062_000029_000000_01f112_000028_000063_000029_000000_01f113_000028_000064_000029,
      0x01f114_000028_000065_000029_000000_01f115_000028_000066_000029_000000_01f116_000028_000067_000029,
      0x01f117_000028_000068_000029_000000_01f118_000028_000069_000029_000000_01f119_000028_00006a_000029,
      0x01f11a_000028_00006b_000029_000000_01f11b_000028_00006c_000029_000000_01f11c_000028_00006d_000029,
      0x01f11d_000028_00006e_000029_000000_01f11e_000028_00006f_000029_000000_01f11f_000028_000070_000029,
      0x01f120_000028_000071_000029_000000_01f121_000028_000072_000029_000000_01f122_000028_000073_000029,
      0x01f123_000028_000074_000029_000000_01f124_000028_000075_000029_000000_01f125_000028_000076_000029,
      0x01f126_000028_000077_000029_000000_01f127_000028_000078_000029_000000_01f128_000028_000079_000029,
      0x01f129_000028_00007a_000029_000000_01f12a_003014_000073_003015_000000_01f12b_000063,
      0x01f12c_000072_000000_01f12d_000063_000064_000000_01f12e_000077_00007a_000000_01f14a_000068_000076,
      0x01f14b_00006d_000076_000000_01f14c_000073_000064_000000_01f14d_000073_000073,
      0x01f14e_000070_000070_000076_000000_01f14f_000077_000063_000000_01f16a_00006d_000063,
      0x01f16b_00006d_000064_000000_01f16c_00006d_000072_000000_01f190_000064_00006a,
      0x01f200_00307b_00304b_000000_01f201_0030b3_0030b3_000000_01f202_0030b5_000000_01f210_00624b,
      0x01f211_005b57_000000_01f212_0053cc_000000_01f213_0030c7_000000_01f214_004e8c_000000_01f215_00591a,
      0x01f216_0089e3_000000_01f217_005929_000000_01f218_004ea4_000000_01f219_006620_000000_01f21a_007121,
      0x01f21b_006599_000000_01f21c_00524d_000000_01f21d_005f8c_000000_01f21e_00518d_000000_01f21f_0065b0,
      0x01f220_00521d_000000_01f221_007d42_000000_01f222_00751f_000000_01f223_008ca9_000000_01f224_0058f0,
      0x01f225_005439_000000_01f226_006f14_000000_01f227_006295_000000_01f228_006355_000000_01f229_004e00,
      0x01f22a_004e09_000000_01f22b_00904a_000000_01f22c_005de6_000000_01f22d_004e2d_000000_01f22e_0053f3,
      0x01f22f_006307_000000_01f230_008d70_000000_01f231_006253_000000_01f232_007981_000000_01f233_007a7a,
      0x01f234_005408_000000_01f235_006e80_000000_01f236_006709_000000_01f237_006708_000000_01f238_007533,
      0x01f239_005272_000000_01f23a_0055b6_000000_01f23b_00914d_000000_01f240_003014_00672c_003015,
      0x01f241_003014_004e09_003015_000000_01f242_003014_004e8c_003015_000000_01f243_003014_005b89_003015,
      0x01f244_003014_0070b9_003015_000000_01f245_003014_006253_003015_000000_01f246_003014_0076d7_003015,
      0x01f247_003014_0052dd_003015_000000_01f248_003014_006557_003015_000000_01f250_005f97,
      0x01f251_0053ef_000000_02f800_004e3d_000000_02f801_004e38_000000_02f802_004e41_000000_02f803_020122,
      0x02f804_004f60_000000_02f805_004fae_000000_02f806_004fbb_000000_02f807_005002_000000_02f808_00507a,
      0x02f809_005099_000000_02f80a_0050e7_000000_02f80b_0050cf_000000_02f80c_00349e_000000_02f80d_02063a,
      0x02f80e_00514d_000000_02f80f_005154_000000_02f810_005164_000000_02f811_005177_000000_02f812_02051c,
      0x02f813_0034b9_000000_02f814_005167_000000_02f815_00518d_000000_02f816_02054b_000000_02f817_005197,
      0x02f818_0051a4_000000_02f819_004ecc_000000_02f81a_0051ac_000000_02f81b_0051b5_000000_02f81c_0291df,
      0x02f81d_0051f5_000000_02f81e_005203_000000_02f81f_0034df_000000_02f820_00523b_000000_02f821_005246,
      0x02f822_005272_000000_02f823_005277_000000_02f824_003515_000000_02f825_0052c7_000000_02f826_0052c9,
      0x02f827_0052e4_000000_02f828_0052fa_000000_02f829_005305_000000_02f82a_005306_000000_02f82b_005317,
      0x02f82c_005349_000000_02f82d_005351_000000_02f82e_00535a_000000_02f82f_005373_000000_02f830_00537d,
      0x02f834_020a2c_000000_02f835_007070_000000_02f836_0053ca_000000_02f837_0053df_000000_02f838_020b63,
      0x02f839_0053eb_000000_02f83a_0053f1_000000_02f83b_005406_000000_02f83c_00549e_000000_02f83d_005438,
      0x02f83e_005448_000000_02f83f_005468_000000_02f840_0054a2_000000_02f841_0054f6_000000_02f842_005510,
      0x02f843_005553_000000_02f844_005563_000000_02f845_005584_000000_02f846_005584_000000_02f847_005599,
      0x02f848_0055ab_000000_02f849_0055b3_000000_02f84a_0055c2_000000_02f84b_005716_000000_02f84c_005606,
      0x02f84d_005717_000000_02f84e_005651_000000_02f84f_005674_000000_02f850_005207_000000_02f851_0058ee,
      0x02f852_0057ce_000000_02f853_0057f4_000000_02f854_00580d_000000_02f855_00578b_000000_02f856_005832,
      0x02f857_005831_000000_02f858_0058ac_000000_02f859_0214e4_000000_02f85a_0058f2_000000_02f85b_0058f7,
      0x02f85c_005906_000000_02f85d_00591a_000000_02f85e_005922_000000_02f85f_005962_000000_02f860_0216a8,
      0x02f861_0216ea_000000_02f862_0059ec_000000_02f863_005a1b_000000_02f864_005a27_000000_02f865_0059d8,
      0x02f866_005a66_000000_02f867_0036ee_000000_02f868_0036fc_000000_02f869_005b08_000000_02f86a_005b3e,
      0x02f86b_005b3e_000000_02f86c_0219c8_000000_02f86d_005bc3_000000_02f86e_005bd8_000000_02f86f_005be7,
      0x02f870_005bf3_000000_02f871_021b18_000000_02f872_005bff_000000_02f873_005c06_000000_02f874_005f53,
      0x02f875_005c22_000000_02f876_003781_000000_02f877_005c60_000000_02f878_005c6e_000000_02f879_005cc0,
      0x02f87a_005c8d_000000_02f87b_021de4_000000_02f87c_005d43_000000_02f87d_021de6_000000_02f87e_005d6e,
      0x02f87f_005d6b_000000_02f880_005d7c_000000_02f881_005de1_000000_02f882_005de2_000000_02f883_00382f,
      0x02f884_005dfd_000000_02f885_005e28_000000_02f886_005e3d_000000_02f887_005e69_000000_02f888_003862,
      0x02f889_022183_000000_02f88a_00387c_000000_02f88b_005eb0_000000_02f88c_005eb3_000000_02f88d_005eb6,
      0x02f88e_005eca_000000_02f88f_02a392_000000_02f890_005efe_000000_02f891_022331_000000_02f892_022331,
      0x02f893_008201_000000_02f894_005f22_000000_02f895_005f22_000000_02f896_0038c7_000000_02f897_0232b8,
      0x02f898_0261da_000000_02f899_005f62_000000_02f89a_005f6b_000000_02f89b_0038e3_000000_02f89c_005f9a,
      0x02f89d_005fcd_000000_02f89e_005fd7_000000_02f89f_005ff9_000000_02f8a0_006081_000000_02f8a1_00393a,
      0x02f8a2_00391c_000000_02f8a3_006094_000000_02f8a4_0226d4_000000_02f8a5_0060c7_000000_02f8a6_006148,
      0x02f8a7_00614c_000000_02f8a8_00614e_000000_02f8a9_00614c_000000_02f8aa_00617a_000000_02f8ab_00618e,
      0x02f8ac_0061b2_000000_02f8ad_0061a4_000000_02f8ae_0061af_000000_02f8af_0061de_000000_02f8b0_0061f2,
      0x02f8b1_0061f6_000000_02f8b2_006210_000000_02f8b3_00621b_000000_02f8b4_00625d_000000_02f8b5_0062b1,
      0x02f8b6_0062d4_000000_02f8b7_006350_000000_02f8b8_022b0c_000000_02f8b9_00633d_000000_02f8ba_0062fc,
      0x02f8bb_006368_000000_02f8bc_006383_000000_02f8bd_0063e4_000000_02f8be_022bf1_000000_02f8bf_006422,
      0x02f8c0_0063c5_000000_02f8c1_0063a9_000000_02f8c2_003a2e_000000_02f8c3_006469_000000_02f8c4_00647e,
      0x02f8c5_00649d_000000_02f8c6_006477_000000_02f8c7_003a6c_000000_02f8c8_00654f_000000_02f8c9_00656c,
      0x02f8ca_02300a_000000_02f8cb_0065e3_000000_02f8cc_0066f8_000000_02f8cd_006649_000000_02f8ce_003b19,
      0x02f8cf_006691_000000_02f8d0_003b08_000000_02f8d1_003ae4_000000_02f8d2_005192_000000_02f8d3_005195,
      0x02f8d4_006700_000000_02f8d5_00669c_000000_02f8d6_0080ad_000000_02f8d7_0043d9_000000_02f8d8_006717,
      0x02f8d9_00671b_000000_02f8da_006721_000000_02f8db_00675e_000000_02f8dc_006753_000000_02f8dd_0233c3,
      0x02f8de_003b49_000000_02f8df_0067fa_000000_02f8e0_006785_000000_02f8e1_006852_000000_02f8e2_006885,
      0x02f8e3_02346d_000000_02f8e4_00688e_000000_02f8e5_00681f_000000_02f8e6_006914_000000_02f8e7_003b9d,
      0x02f8e8_006942_000000_02f8e9_0069a3_000000_02f8ea_0069ea_000000_02f8eb_006aa8_000000_02f8ec_0236a3,
      0x02f8ed_006adb_000000_02f8ee_003c18_000000_02f8ef_006b21_000000_02f8f0_0238a7_000000_02f8f1_006b54,
      0x02f8f2_003c4e_000000_02f8f3_006b72_000000_02f8f4_006b9f_000000_02f8f5_006bba_000000_02f8f6_006bbb,
      0x02f8f7_023a8d_000000_02f8f8_021d0b_000000_02f8f9_023afa_000000_02f8fa_006c4e_000000_02f8fb_023cbc,
      0x02f8fc_006cbf_000000_02f8fd_006ccd_000000_02f8fe_006c67_000000_02f8ff_006d16_000000_02f900_006d3e,
      0x02f901_006d77_000000_02f902_006d41_000000_02f903_006d69_000000_02f904_006d78_000000_02f905_006d85,
      0x02f906_023d1e_000000_02f907_006d34_000000_02f908_006e2f_000000_02f909_006e6e_000000_02f90a_003d33,
      0x02f90b_006ecb_000000_02f90c_006ec7_000000_02f90d_023ed1_000000_02f90e_006df9_000000_02f90f_006f6e,
      0x02f910_023f5e_000000_02f911_023f8e_000000_02f912_006fc6_000000_02f913_007039_000000_02f914_00701e,
      0x02f915_00701b_000000_02f916_003d96_000000_02f917_00704a_000000_02f918_00707d_000000_02f919_007077,
      0x02f91a_0070ad_000000_02f91b_020525_000000_02f91c_007145_000000_02f91d_024263_000000_02f91e_00719c,
      0x02f91f_0243ab_000000_02f920_007228_000000_02f921_007235_000000_02f922_007250_000000_02f923_024608,
      0x02f924_007280_000000_02f925_007295_000000_02f926_024735_000000_02f927_024814_000000_02f928_00737a,
      0x02f929_00738b_000000_02f92a_003eac_000000_02f92b_0073a5_000000_02f92c_003eb8_000000_02f92d_003eb8,
      0x02f92e_007447_000000_02f92f_00745c_000000_02f930_007471_000000_02f931_007485_000000_02f932_0074ca,
      0x02f933_003f1b_000000_02f934_007524_000000_02f935_024c36_000000_02f936_00753e_000000_02f937_024c92,
      0x02f938_007570_000000_02f939_02219f_000000_02f93a_007610_000000_02f93b_024fa1_000000_02f93c_024fb8,
      0x02f93d_025044_000000_02f93e_003ffc_000000_02f93f_004008_000000_02f940_0076f4_000000_02f941_0250f3,
      0x02f942_0250f2_000000_02f943_025119_000000_02f944_025133_000000_02f945_00771e_000000_02f946_00771f,
      0x02f947_00771f_000000_02f948_00774a_000000_02f949_004039_000000_02f94a_00778b_000000_02f94b_004046,
      0x02f94c_004096_000000_02f94d_02541d_000000_02f94e_00784e_000000_02f94f_00788c_000000_02f950_0078cc,
      0x02f951_0040e3_000000_02f952_025626_000000_02f953_007956_000000_02f954_02569a_000000_02f955_0256c5,
      0x02f956_00798f_000000_02f957_0079eb_000000_02f958_00412f_000000_02f959_007a40_000000_02f95a_007a4a,
      0x02f95b_007a4f_000000_02f95c_02597c_000000_02f95d_025aa7_000000_02f95e_025aa7_000000_02f95f_007aee,
      0x02f960_004202_000000_02f961_025bab_000000_02f962_007bc6_000000_02f963_007bc9_000000_02f964_004227,
      0x02f965_025c80_000000_02f966_007cd2_000000_02f967_0042a0_000000_02f968_007ce8_000000_02f969_007ce3,
      0x02f96a_007d00_000000_02f96b_025f86_000000_02f96c_007d63_000000_02f96d_004301_000000_02f96e_007dc7,
      0x02f96f_007e02_000000_02f970_007e45_000000_02f971_004334_000000_02f972_026228_000000_02f973_026247,
      0x02f974_004359_000000_02f975_0262d9_000000_02f976_007f7a_000000_02f977_02633e_000000_02f978_007f95,
      0x02f979_007ffa_000000_02f97a_008005_000000_02f97b_0264da_000000_02f97c_026523_000000_02f97d_008060,
      0x02f97e_0265a8_000000_02f97f_008070_000000_02f980_02335f_000000_02f981_0043d5_000000_02f982_0080b2,
      0x02f983_008103_000000_02f984_00440b_000000_02f985_00813e_000000_02f986_005ab5_000000_02f987_0267a7,
      0x02f988_0267b5_000000_02f989_023393_000000_02f98a_02339c_000000_02f98b_008201_000000_02f98c_008204,
      0x02f98d_008f9e_000000_02f98e_00446b_000000_02f98f_008291_000000_02f990_00828b_000000_02f991_00829d,
      0x02f992_0052b3_000000_02f993_0082b1_000000_02f994_0082b3_000000_02f995_0082bd_000000_02f996_0082e6,
      0x02f997_026b3c_000000_02f998_0082e5_000000_02f999_00831d_000000_02f99a_008363_000000_02f99b_0083ad,
      0x02f99c_008323_000000_02f99d_0083bd_000000_02f99e_0083e7_000000_02f99f_008457_000000_02f9a0_008353,
      0x02f9a1_0083ca_000000_02f9a2_0083cc_000000_02f9a3_0083dc_000000_02f9a4_026c36_000000_02f9a5_026d6b,
      0x02f9a6_026cd5_000000_02f9a7_00452b_000000_02f9a8_0084f1_000000_02f9a9_0084f3_000000_02f9aa_008516,
      0x02f9ab_0273ca_000000_02f9ac_008564_000000_02f9ad_026f2c_000000_02f9ae_00455d_000000_02f9af_004561,
      0x02f9b0_026fb1_000000_02f9b1_0270d2_000000_02f9b2_00456b_000000_02f9b3_008650_000000_02f9b4_00865c,
      0x02f9b5_008667_000000_02f9b6_008669_000000_02f9b7_0086a9_000000_02f9b8_008688_000000_02f9b9_00870e,
      0x02f9ba_0086e2_000000_02f9bb_008779_000000_02f9bc_008728_000000_02f9bd_00876b_000000_02f9be_008786,
      0x02f9bf_0045d7_000000_02f9c0_0087e1_000000_02f9c1_008801_000000_02f9c2_0045f9_000000_02f9c3_008860,
      0x02f9c4_008863_000000_02f9c5_027667_000000_02f9c6_0088d7_000000_02f9c7_0088de_000000_02f9c8_004635,
      0x02f9c9_0088fa_000000_02f9ca_0034bb_000000_02f9cb_0278ae_000000_02f9cc_027966_000000_02f9cd_0046be,
      0x02f9ce_0046c7_000000_02f9cf_008aa0_000000_02f9d0_008aed_000000_02f9d1_008b8a_000000_02f9d2_008c55,
      0x02f9d3_027ca8_000000_02f9d4_008cab_000000_02f9d5_008cc1_000000_02f9d6_008d1b_000000_02f9d7_008d77,
      0x02f9d8_027f2f_000000_02f9d9_020804_000000_02f9da_008dcb_000000_02f9db_008dbc_000000_02f9dc_008df0,
      0x02f9dd_0208de_000000_02f9de_008ed4_000000_02f9df_008f38_000000_02f9e0_0285d2_000000_02f9e1_0285ed,
      0x02f9e2_009094_000000_02f9e3_0090f1_000000_02f9e4_009111_000000_02f9e5_02872e_000000_02f9e6_00911b,
      0x02f9e7_009238_000000_02f9e8_0092d7_000000_02f9e9_0092d8_000000_02f9ea_00927c_000000_02f9eb_0093f9,
      0x02f9ec_009415_000000_02f9ed_028bfa_000000_02f9ee_00958b_000000_02f9ef_004995_000000_02f9f0_0095b7,
      0x02f9f1_028d77_000000_02f9f2_0049e6_000000_02f9f3_0096c3_000000_02f9f4_005db2_000000_02f9f5_009723,
      0x02f9f6_029145_000000_02f9f7_02921a_000000_02f9f8_004a6e_000000_02f9f9_004a76_000000_02f9fa_0097e0,
      0x02f9fb_02940a_000000_02f9fc_004ab2_000000_02f9fd_029496_000000_02f9fe_00980b_000000_02f9ff_00980b,
      0x02fa00_009829_000000_02fa01_0295b6_000000_02fa02_0098e2_000000_02fa03_004b33_000000_02fa04_009929,
      0x02fa05_0099a7_000000_02fa06_0099c2_000000_02fa07_0099fe_000000_02fa08_004bce_000000_02fa09_029b30,
      0x02fa0a_009b12_000000_02fa0b_009c40_000000_02fa0c_009cfd_000000_02fa0d_004cce_000000_02fa0e_004ced,
      0x02fa0f_009d67_000000_02fa10_02a0ce_000000_02fa11_004cf8_000000_02fa12_02a105_000000_02fa13_02a20e,
      0x02fa14_02a291_000000_02fa15_009ebb_000000_02fa16_004d56_000000_02fa17_009ef9_000000_02fa18_009efe,
      0x02fa19_009f05_000000_02fa1a_009f0f_000000_02fa1b_009f16_000000_02fa1c_009f3b_000000_02fa1d_02a600]

end SenderPolicy.Idna
