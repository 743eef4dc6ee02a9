import SenderPolicy.Idna.Table

/-!
# Table of writing directions

The characters of each directional class but the left-to-right one, to which every other character belongs.
-/

namespace SenderPolicy.Idna

def rightToLeftLetters : List Table.Range :=
  Table.ranges
    [0x0005be_000000_0005c0_000000_0005c3_000000_0005c6_000000_0005d0_0005f4_000000_0007c0_0007ea,
      0x0007f4_0007f5_000000_0007fa_000000_0007fe_000815_000000_00081a_000000_000824_000000_000828,
      0x000830_000858_000000_00085e_000000_010800_01091b_000000_010920_010a00_000000_010a10_010a35,
      0x010a40_010ae4_000000_010aeb_010b35_000000_010b40_010cff_000000_010d4a_010d4f_000000_010d6f_010d8f,
      0x010e80_010ea9_000000_010ead_010eb1_000000_010f00_010f27_000000_010f70_010f81_000000_010f86_010ff6,
      0x01e800_01e8cf_000000_01e922_01e943_000000_01e94b_01e95f]

def arabicLetters : List Table.Range :=
  Table.ranges
    [0x000608_000000_00060b_000000_00060d_000000_00061b_00064a_000000_00066d_00066f_000000_000671_0006d5,
      0x0006e5_0006e6_000000_0006ee_0006ef_000000_0006fa_000710_000000_000712_00072f_000000_00074d_0007a5,
      0x0007b1_000000_000860_00088f_000000_0008a0_0008c9_000000_00fbb2_00fbc2_000000_00fe73,
      0x010d00_010d23_000000_010ec2_010ecf_000000_010ed9_010ee0_000000_010f30_010f45_000000_010f51_010f59,
      0x01ec71_01ed3d]

def arabicNumbers : List Table.Range :=
  Table.ranges
    [0x000660_000669_000000_00066b_00066c_000000_010d30_010d49_000000_010e60_010e7e]

def europeanNumbers : List Table.Range :=
  Table.ranges
    [0x000030_000039_000000_0006f0_0006f9_000000_0102e1_0102fb]

def europeanSeparators : List Table.Range :=
  Table.ranges
    [0x00002b_000000_00002d_000000_002212]

def commonSeparators : List Table.Range :=
  Table.ranges
    [0x00002c_000000_00002e_00002f_000000_00003a_000000_00060c_000000_002044]

def europeanTerminators : List Table.Range :=
  Table.ranges
    [0x000023_000025_000000_0000a2_0000a5_000000_0000b0_0000b1_000000_00058f_000000_000609_00060a,
      0x00066a_000000_0009f2_0009f3_000000_0009fb_000000_000af1_000000_000bf9_000000_000e3f_000000_0017db,
      0x002030_002032_000000_0020a0_0020c4_000000_00212e_000000_002213_000000_00a838_00a839,
      0x011fdd_011fe0_000000_01e2ff]

def neutrals : List Table.Range :=
  Table.ranges
    [0x000021_000022_000000_000026_00002a_000000_00003b_000060_000000_00007b_00007e_000000_0000a1,
      0x0000a6_0000ae_000000_0000b6_0000d7_000000_0000f7_000000_0002b9_0002ba_000000_0002c2_0002cf,
      0x0002d2_0002ed_000000_0002ef_0002ff_000000_000375_000000_0003f6_000000_00058a_00058e,
      0x000606_000607_000000_00060e_00060f_000000_0006de_000000_0006e9_000000_0007f6_0007f9,
      0x000bf3_000bf8_000000_000bfa_000000_000c78_000c7e_000000_000f3a_000f3d_000000_001390_001399,
      0x001400_000000_00169b_00169c_000000_0017f0_00180a_000000_001940_001945_000000_0019de_0019ff,
      0x002010_002027_000000_002035_002043_000000_002045_00208f_000000_002104_002129_000000_00213a_00214d,
      0x00218a_002211_000000_002214_002335_000000_00237b_002394_000000_002396_0026ab_000000_0026ad_0027ff,
      0x002900_002bff_000000_002ce5_002cea_000000_002cf9_002cff_000000_002e00_003004_000000_003008_003020,
      0x003030_000000_003037_000000_00303d_00303f_000000_0030a0_000000_0030fb_000000_0031c0_0031e5,
      0x004dc0_004dff_000000_00a490_00a4c6_000000_00a60d_00a60f_000000_00a673_000000_00a67e_00a67f,
      0x00a700_00a721_000000_00a788_000000_00a828_00a82b_000000_00a874_00a877_000000_00ab6a_00ab6b,
      0x00fbc3_00fdff_000000_00fe45_00fe46_000000_010101_000000_010140_01018c_000000_010190_0101a0,
      0x01091f_000000_010b39_010b3f_000000_010d6e_000000_010ed0_010ed8_000000_011052_011065,
      0x011660_01166c_000000_011fd5_011fdc_000000_011fe1_011ff1_000000_016fe2_000000_01cc00_01cef0,
      0x01d1e9_01d241_000000_01d245_000000_01d300_01d356_000000_01db00_01dbff_000000_01eef0_01f12f,
      0x01f16d_01f16f_000000_01f1ad_000000_01f260_01fbfa]

/-- Characters that leave the direction as it is. -/
def boundaryNeutrals : List Table.Range :=
  ⟨0, 8⟩ :: Table.ranges
    [0x00000e_00001b_000000_00007f_000000_00200c_00200d]

/-- Marks that take the direction of what they stand on. -/
def nonspacingMarks : List Table.Range :=
  Table.ranges
    [0x000300_00036f_000000_000483_000489_000000_000591_0005bd_000000_0005bf_000000_0005c1_0005c2,
      0x0005c4_0005c5_000000_0005c7_0005c9_000000_000610_00061a_000000_00064b_00065f_000000_000670,
      0x0006d6_0006dc_000000_0006df_0006e4_000000_0006e7_0006e8_000000_0006ea_0006ed_000000_000711,
      0x000730_00074a_000000_0007a6_0007b0_000000_0007eb_0007f3_000000_0007fd_000000_000816_000819,
      0x00081b_000823_000000_000825_000827_000000_000829_00082d_000000_000859_00085b_000000_000897_00089f,
      0x0008ca_000902_000000_00093a_000000_00093c_000000_000941_000948_000000_00094d_000000_000951_000957,
      0x000962_000963_000000_000981_000000_0009bc_000000_0009c1_0009c4_000000_0009cd_000000_0009e2_0009e3,
      0x0009fe_000a02_000000_000a3c_000000_000a41_000a51_000000_000a70_000a71_000000_000a75,
      0x000a81_000a82_000000_000abc_000000_000ac1_000ac8_000000_000acd_000000_000ae2_000ae3,
      0x000afa_000b01_000000_000b3c_000000_000b3f_000000_000b41_000b44_000000_000b4d_000b56,
      0x000b62_000b63_000000_000b82_000000_000bc0_000000_000bcd_000000_000c00_000000_000c04_000000_000c3c,
      0x000c3e_000c40_000000_000c46_000c56_000000_000c62_000c63_000000_000c81_000000_000cbc,
      0x000ccc_000ccd_000000_000ce2_000ce3_000000_000d00_000d01_000000_000d3b_000d3c_000000_000d41_000d44,
      0x000d4d_000000_000d62_000d63_000000_000d81_000000_000dca_000000_000dd2_000dd6_000000_000e31,
      0x000e34_000e3a_000000_000e47_000e4e_000000_000eb1_000000_000eb4_000ebc_000000_000ec8_000ece,
      0x000f18_000f19_000000_000f35_000000_000f37_000000_000f39_000000_000f71_000f7e_000000_000f80_000f84,
      0x000f86_000f87_000000_000f8d_000fbc_000000_000fc6_000000_00102d_001030_000000_001032_001037,
      0x001039_00103a_000000_00103d_00103e_000000_001058_001059_000000_00105e_001060_000000_001071_001074,
      0x001082_000000_001085_001086_000000_00108d_000000_00109d_000000_00135d_00135f_000000_001712_001714,
      0x001732_001733_000000_001752_001753_000000_001772_001773_000000_0017b7_0017bd_000000_0017c6,
      0x0017c9_0017d3_000000_0017dd_000000_001885_001886_000000_0018a9_000000_001920_001922,
      0x001927_001928_000000_001932_000000_001939_00193b_000000_001a17_001a18_000000_001a1b_000000_001a56,
      0x001a58_001a60_000000_001a62_000000_001a65_001a6c_000000_001a73_001a7f_000000_001ab0_001b03,
      0x001b34_000000_001b36_001b39_000000_001b6b_001b73_000000_001b80_001b81_000000_001ba2_001ba5,
      0x001ba8_001ba9_000000_001bab_001bad_000000_001be6_000000_001be8_001be9_000000_001bed,
      0x001bef_001bf1_000000_001c2c_001c33_000000_001c36_001c37_000000_001cd0_001cd2_000000_001cd4_001ce0,
      0x001ce2_001ce8_000000_001ced_000000_001cf4_000000_001cf8_001cf9_000000_001dc0_001dff,
      0x0020d0_0020f0_000000_002cef_002cf1_000000_002d7f_000000_002de0_002dff_000000_00302a_00302d,
      0x003099_00309a_000000_00a66f_00a672_000000_00a674_00a67d_000000_00a69e_00a69f_000000_00a6f0_00a6f1,
      0x00a802_000000_00a806_000000_00a80b_000000_00a825_00a826_000000_00a82c_000000_00a8c4_00a8c5,
      0x00a8e0_00a8f1_000000_00a8ff_000000_00a926_00a92d_000000_00a947_00a951_000000_00a980_00a982,
      0x00a9b3_000000_00a9b6_00a9b9_000000_00a9bc_00a9bd_000000_00a9e5_000000_00aa29_00aa2e,
      0x00aa31_00aa32_000000_00aa35_00aa36_000000_00aa43_000000_00aa4c_000000_00aa7c_000000_00aab0,
      0x00aab2_00aab4_000000_00aab7_00aab8_000000_00aabe_00aabf_000000_00aac1_000000_00aaec_00aaed,
      0x00aaf6_000000_00abe5_000000_00abe8_000000_00abed_000000_00fb1e_000000_00fe20_00fe2f_000000_0101fd,
      0x0102e0_000000_010376_01037a_000000_010a01_010a0f_000000_010a38_010a3f_000000_010ae5_010ae6,
      0x010d24_010d27_000000_010d69_010d6d_000000_010eab_010eac_000000_010ef0_010eff_000000_010f46_010f50,
      0x010f82_010f85_000000_011001_000000_011038_011046_000000_011070_000000_011073_011074,
      0x01107f_011081_000000_0110b3_0110b6_000000_0110b9_0110ba_000000_0110c2_000000_011100_011102,
      0x011127_01112b_000000_01112d_011134_000000_011173_000000_011180_011181_000000_0111b6_0111be,
      0x0111c9_0111cc_000000_0111cf_000000_01122f_011231_000000_011234_000000_011236_011237_000000_01123e,
      0x011241_000000_0112df_000000_0112e3_0112ea_000000_011300_011301_000000_01133b_01133c_000000_011340,
      0x011366_011374_000000_0113bb_0113c0_000000_0113ce_000000_0113d0_000000_0113d2_000000_0113e1_0113e2,
      0x011438_01143f_000000_011442_011444_000000_011446_000000_01145e_000000_0114b3_0114b8_000000_0114ba,
      0x0114bf_0114c0_000000_0114c2_0114c3_000000_0115b2_0115b5_000000_0115bc_0115bd_000000_0115bf_0115c0,
      0x0115dc_0115dd_000000_011633_01163a_000000_01163d_000000_01163f_011640_000000_0116ab_000000_0116ad,
      0x0116b0_0116b5_000000_0116b7_000000_01171d_000000_01171f_000000_011722_011725_000000_011727_01172b,
      0x01182f_011837_000000_011839_01183a_000000_01193b_01193c_000000_01193e_000000_011943,
      0x0119d4_0119db_000000_0119e0_000000_011a01_011a06_000000_011a09_011a0a_000000_011a33_011a38,
      0x011a3b_011a3e_000000_011a47_000000_011a51_011a56_000000_011a59_011a5b_000000_011a8a_011a96,
      0x011a98_011a99_000000_011b60_000000_011b62_011b64_000000_011b66_000000_011c30_011c3d,
      0x011c92_011ca7_000000_011caa_011cb0_000000_011cb2_011cb3_000000_011cb5_011cb6_000000_011d31_011d45,
      0x011d47_000000_011d90_011d91_000000_011d95_000000_011d97_000000_011ef3_011ef4_000000_011f00_011f01,
      0x011f36_011f3a_000000_011f40_000000_011f42_000000_011f5a_000000_013440_000000_013447_013455,
      0x01611e_016129_000000_01612d_01612f_000000_016af0_016af4_000000_016b30_016b36_000000_016f4f,
      0x016f8f_016f92_000000_016fe4_000000_01bc9d_01bc9e_000000_01cf00_01cf46_000000_01d167_01d169,
      0x01d17b_01d182_000000_01d185_01d18b_000000_01d1aa_01d1ad_000000_01d242_01d244_000000_01da00_01da36,
      0x01da3b_01da6c_000000_01da75_000000_01da84_000000_01da9b_01daaf_000000_01e000_01e08f,
      0x01e130_01e136_000000_01e2ae_000000_01e2ec_01e2ef_000000_01e4ec_01e4ef_000000_01e5ee_01e5ef,
      0x01e6e3_000000_01e6e6_000000_01e6ee_01e6ef_000000_01e6f5_000000_01e8d0_01e8d6_000000_01e944_01e94a]

/-- Separators of paragraphs and segments, and blanks, which suit no directional rule. -/
def unsuitedCharacters : List Table.Range :=
  Table.ranges
    [0x000009_00000d_000000_00001c_000020]

end SenderPolicy.Idna
